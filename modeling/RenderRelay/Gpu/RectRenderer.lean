import RenderRelay.Color
import RenderRelay.Gpu.Device
import RenderRelay.Gpu.InstanceArena
import RenderRelay.Gpu.Scissor

/-!
Drawing many filled rectangles with one instanced pipeline. Rectangles that follow each other under
equal clips share a draw; what a draw needs is made once and kept until the target's format changes
or it is trimmed.
-/

namespace RenderRelay.Gpu

/-- A rectangle that waits to be drawn, its extents not negative. -/
structure PendingRect where
  rect : Rect
  color : Color
  clip : Option Rect

namespace PendingRect

def ofRect (rect : Rect) (color : Color) (clip : Option Rect) : PendingRect :=
  ⟨rect.normalized, color, clip⟩

def instanceBytes : Nat := 32

def words (p : PendingRect) : List UInt32 :=
  [p.rect.x, p.rect.y, p.rect.width, p.rect.height,
    p.color.r, p.color.g, p.color.b, p.color.a].map Single.toBits

end PendingRect

/-- Clips in runs: each first clip with the number of clips in a row that equal it, itself
included. A clip that differs from itself makes a run of its own. -/
def clipRuns : List (Option Rect) → List (Option Rect × Nat)
  | [] => []
  | clip :: rest =>
    (clip, (rest.takeWhile (· == clip)).length + 1) :: clipRuns (rest.dropWhile (· == clip))
  termination_by clips => clips.length
  decreasing_by
    have := (List.dropWhile_suffix (l := rest) (· == clip)).length_le
    simp only [List.length_cons]
    omega

/-- A pipeline, its bind group layout and the format it draws to. -/
structure Pipeline where
  number : Nat
  format : TextureFormat
  deriving DecidableEq

/-- A bind group and the uniform buffer in it. -/
structure Binding where
  group : Nat
  uniform : Nat
  deriving DecidableEq

/-- The corners of the unit square and the two triangles that fill it. -/
structure Quad where
  vertices : Nat
  indices : Nat
  deriving DecidableEq

/-- What a renderer keeps between two calls. -/
structure RectRenderer where
  pipeline : Option Pipeline
  binding : Option Binding
  quad : Option Quad
  instances : Option Nat
  arena : InstanceArena
  deriving Inhabited

namespace RectRenderer

def empty : RectRenderer := ⟨none, none, none, none, .empty⟩

/-- Begins a frame; ranges of the frame before may be written again. -/
def beginFrame (r : RectRenderer) : RectRenderer := { r with arena := r.arena.rewind }

def trim (r : RectRenderer) : RectRenderer := { r with instances := none, arena := .empty }

/-! ### Resources -/

def shaderBytes : Nat := 912

/-- The bytes of the viewport uniform, padded to sixteen. -/
def uniformBytes : Nat := 16

/-- The corner of a vertex, and the three attributes of an instance. -/
def vertexLayouts : List VertexLayout :=
  [⟨8, .perVertex, [⟨0, 0, .float32x2⟩]⟩,
    ⟨PendingRect.instanceBytes, .perInstance,
      [⟨1, 0, .float32x2⟩, ⟨2, 8, .float32x2⟩, ⟨3, 16, .float32x4⟩]⟩]

def createPipeline (format : TextureFormat) : StateM Device Pipeline := do
  let d ← get
  let number := d.pipelines
  set { d with pipelines := number + 1 }
  Device.request (.createShader "tessera rect shader" shaderBytes)
  Device.request (.createBindGroupLayout number "tessera rect bgl" [⟨0, uniformBytes⟩])
  Device.request (.createPipelineLayout "tessera rect pipeline layout" [number])
  Device.request <| .createPipeline number
    ⟨"tessera rect pipeline", "vs_main", "fs_main", vertexLayouts, format⟩
  return ⟨number, format⟩

/-- A pipeline for the format. A new one makes the binding useless, which is tied to the old. -/
def ensurePipeline (r : RectRenderer) (format : TextureFormat) :
    StateM Device (Pipeline × RectRenderer) :=
  match r.pipeline.filter (·.format = format) with
  | some pipeline => pure (pipeline, r)
  | none => do
    let pipeline ← createPipeline format
    return (pipeline, { r with pipeline := some pipeline, binding := none })

/-- The corners `(0, 0)`, `(1, 0)`, `(1, 1)`, `(0, 1)`. -/
def quadCorners : List Single := [0, 0, 1, 0, 1, 1, 0, 1]

def quadIndices : List Nat := [0, 1, 2, 0, 2, 3]

/-- Half-words in pairs, the first of each pair in the low half. -/
def packHalves : List Nat → List UInt32
  | low :: high :: rest => .ofNat (low + high <<< 16) :: packHalves rest
  | [low] => [.ofNat low]
  | [] => []

def ensureQuad (r : RectRenderer) : StateM Device (Quad × RectRenderer) :=
  match r.quad with
  | some quad => pure (quad, r)
  | none => do
    let vertices ←
      Device.createBufferOf "tessera rect quad vbo" (quadCorners.map Single.toBits) [.vertex]
    let indices ← Device.createBufferOf "tessera rect quad ibo" (packHalves quadIndices) [.index]
    let quad : Quad := ⟨vertices, indices⟩
    return (quad, { r with quad := some quad })

/-- A bind group for a pipeline, and the uniform buffer in it. -/
def ensureBinding (r : RectRenderer) (pipeline : Pipeline) :
    StateM Device (Binding × RectRenderer) :=
  match r.binding with
  | some binding => pure (binding, r)
  | none => do
    let uniform ←
      Device.createBuffer "tessera rect viewport ubo" uniformBytes [.copyDst, .uniform]
    let d ← get
    let group := d.groups
    set { d with groups := group + 1 }
    Device.request (.createBindGroup group pipeline.number "tessera rect bind group" 0 uniform)
    let binding : Binding := ⟨group, uniform⟩
    return (binding, { r with binding := some binding })

/-- Where `count` instances go, and the arena afterwards. A buffer with more bytes than the address
space is a fault. -/
def room (r : RectRenderer) (count : Nat) : Except Fault (Reservation × InstanceArena) :=
  let arena := if r.instances.isNone then .empty else r.arena
  match arena.reserve count with
  | .error fault => .error fault
  | .ok (.within base, arena) => .ok (.within base, arena)
  | .ok (.grow capacity, arena) =>
    if InstanceArena.wordLimit ≤ capacity * PendingRect.instanceBytes then .error .multiplyOverflow
    else .ok (.grow capacity, arena)

/-- A range of an instance buffer for `count` instances: the buffer and the first place. -/
def reserveInstances (r : RectRenderer) (count : Nat) :
    ExceptT Fault (StateM Device) (Nat × Nat × RectRenderer) :=
  match r.room count, r.instances with
  | .error fault, _ => throw fault
  | .ok (.within base, arena), some buffer => return (buffer, base, { r with arena })
  | .ok (.within base, arena), none => return (0, base, { r with arena })
  | .ok (.grow capacity, arena), _ => do
    let buffer ← Device.createBuffer "tessera rect instance vbo"
      (capacity * PendingRect.instanceBytes) [.copyDst, .vertex]
    return (buffer, 0, { r with instances := some buffer, arena })

/-! ### Drawing -/

/-- The number of an instance as the draw call carries it. -/
def instanceNumber (n : Nat) : Nat := n % 0x100000000

/-- The draws of the runs of clips: each run under its scissor, the runs without one left out.
`first` is the place of the first instance. -/
def drawRuns (viewport : Viewport) : Nat → List (Option Rect × Nat) → List DeviceCall
  | _, [] => []
  | first, (clip, count) :: rest =>
    (match scissor clip viewport with
    | some area =>
      [.setScissor area,
        .drawIndexed quadIndices.length (instanceNumber first) (instanceNumber (first + count))]
    | none => []) ++ drawRuns viewport (first + count) rest

def requestAll : List DeviceCall → StateM Device Unit
  | [] => pure ()
  | call :: rest => do
    Device.request call
    requestAll rest

/-- Draws rectangles in order. Without any, or without pixels to draw to, nothing is done. -/
def render (r : RectRenderer) (format : TextureFormat) (viewport : Viewport)
    (rects : List PendingRect) : ExceptT Fault (StateM Device) RectRenderer :=
  if rects.isEmpty || viewport.isEmpty then pure r
  else do
    let (pipeline, r) ← r.ensurePipeline format
    let (quad, r) ← r.ensureQuad
    let (binding, r) ← r.ensureBinding pipeline
    let (instances, base, r) ← r.reserveInstances rects.length
    let size := [.ofNat viewport.width, .ofNat viewport.height, 0, 0]
    requestAll <|
      [.writeBuffer binding.uniform 0 (size.map Single.toBits),
        .writeBuffer instances (base * PendingRect.instanceBytes)
          (rects.flatMap PendingRect.words),
        .beginPass "tessera rect pass",
        .setPipeline pipeline.number pipeline.format,
        .setBindGroup 0 binding.group,
        .setVertexBuffer 0 quad.vertices,
        .setVertexBuffer 1 instances,
        .setIndexBuffer quad.indices] ++
      drawRuns viewport base (clipRuns (rects.map PendingRect.clip)) ++
      [.endPass]
    return r

end RectRenderer

end RenderRelay.Gpu
