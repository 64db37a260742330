import RenderRelay.Geometry.Viewport

/-!
A graphics device that keeps a record of what it is asked to do. Buffers, pipelines and bind groups
are numbered in the order in which they are made.
-/

namespace RenderRelay.Gpu

/-- A texture format by its name. -/
structure TextureFormat where
  name : String
  deriving DecidableEq, Inhabited

/-- What a buffer is used for. -/
inductive BufferUsage where
  | copyDst
  | index
  | vertex
  | uniform
  deriving DecidableEq

/-- The layout of numbers in a vertex attribute. -/
inductive VertexFormat where
  | float32x2
  | float32x4
  deriving DecidableEq

/-- Whether a vertex buffer advances with each vertex or with each instance. -/
inductive StepMode where
  | perVertex
  | perInstance
  deriving DecidableEq

structure VertexAttribute where
  location : Nat
  offset : Nat
  format : VertexFormat
  deriving DecidableEq

structure VertexLayout where
  stride : Nat
  stepMode : StepMode
  attributes : List VertexAttribute
  deriving DecidableEq

/-- A binding of a uniform buffer that vertex shaders see. -/
structure UniformSlot where
  binding : Nat
  minSize : Nat
  deriving DecidableEq

/-- A pipeline that draws lists of triangles, blends premultiplied colours, writes every channel and
culls no face. -/
structure PipelineDescriptor where
  label : String
  vertexEntry : String
  fragmentEntry : String
  vertexBuffers : List VertexLayout
  format : TextureFormat
  deriving DecidableEq

/-- One request to the device. Where an object is made or used its number is given; a pipeline and
the bind group layout made with it have the same number. -/
inductive DeviceCall where
  | createShader (label : String) (textBytes : Nat)
  | createBindGroupLayout (layout : Nat) (label : String) (slots : List UniformSlot)
  | createPipelineLayout (label : String) (layouts : List Nat)
  | createPipeline (pipeline : Nat) (descriptor : PipelineDescriptor)
  | createBuffer (buffer : Nat) (label : String) (bytes : Nat) (usage : List BufferUsage)
  | fillBuffer (buffer : Nat) (words : List UInt32)
  | createBindGroup (group : Nat) (layout : Nat) (label : String) (binding buffer : Nat)
  | writeBuffer (buffer : Nat) (offset : Nat) (words : List UInt32)
  | beginPass (label : String)
  | setPipeline (pipeline : Nat) (format : TextureFormat)
  | setBindGroup (index : Nat) (group : Nat)
  | setVertexBuffer (slot : Nat) (buffer : Nat)
  | setIndexBuffer (buffer : Nat)
  | setScissor (area : PixelBox)
  /-- Draws the first `indices` indices for the instances from `first` up to `last`. -/
  | drawIndexed (indices first last : Nat)
  | endPass
  deriving DecidableEq

/-- How many objects of each kind were made, and what was asked for since the record was taken
last. -/
structure Device where
  buffers : Nat
  pipelines : Nat
  groups : Nat
  calls : List DeviceCall
  deriving Inhabited

namespace Device

def fresh : Device := ⟨0, 0, 0, []⟩

def request (call : DeviceCall) : StateM Device Unit :=
  modify fun d => { d with calls := d.calls ++ [call] }

def createBuffer (label : String) (bytes : Nat) (usage : List BufferUsage) : StateM Device Nat := do
  let d ← get
  set { d with buffers := d.buffers + 1 }
  request (.createBuffer d.buffers label bytes usage)
  return d.buffers

def createBufferOf (label : String) (words : List UInt32) (usage : List BufferUsage) :
    StateM Device Nat := do
  let buffer ← createBuffer label (4 * words.length) usage
  request (.fillBuffer buffer words)
  return buffer

/-- The requests since the last time, and the device without them. -/
def takeCalls (d : Device) : List DeviceCall × Device := (d.calls, { d with calls := [] })

end Device

end RenderRelay.Gpu
