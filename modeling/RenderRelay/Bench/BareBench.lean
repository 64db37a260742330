import RenderRelay.Backend.Traced

/-!
A bench for the operations that a backend need not have: each is tried once on a backend without
them.
-/

namespace RenderRelay.Bench

/-- What the operations on layers answered, and the calls that the backend told of. -/
structure BareAnswer where
  create : Except RenderError Unit
  begin : Except RenderError Unit
  copy : Except RenderError Unit
  calls : List Traced.BackendCall

/-- The backend under test, which keeps its calls with the last one first. -/
def bareBackend : Backend Surface :=
  Traced.bare (ω := List Traced.BackendCall) fun call calls => call :: calls

def outcomeOf {α : Type} : Except RenderError α → Except RenderError Unit
  | .ok _ => .ok ()
  | .error e => .error e

/-- Tries the operations on layers, flushing and trimming among the ones that every backend has. -/
def tryDefaults (damage : PixelBox) (size : Viewport) (dst : Rect) (clip : Option Rect) :
    DeviceOp (Traced.Device (List Traced.BackendCall))
      (Except RenderError Unit × Except RenderError Unit × Except RenderError Unit) := do
  match ← bareBackend.createCanvas false with
  | .error e => return (.error e, .error e, .error e)
  | .ok canvas => do
    let (begun, canvas) ← bareBackend.beginFrame canvas damage
    let create ← bareBackend.createLayer size
    let (beginLayer, layer) ← bareBackend.beginLayerFrame ()
    let copy ← bareBackend.copyLayer layer
    match begun with
    | .ok (some frame) => do
      let frame ← bareBackend.flush frame
      let frame ← bareBackend.drawLayer frame layer dst clip
      let layer ← bareBackend.endLayerFrame layer frame
      bareBackend.destroyLayer layer
    | _ => pure ()
    let canvas ← bareBackend.trimCaches canvas
    bareBackend.destroyCanvas canvas
    return (outcomeOf create, outcomeOf beginLayer, outcomeOf copy)

/-- Tries the operations on a backend of this configuration. -/
def bareAnswer (config : Traced.Config) (damage : PixelBox) (size : Viewport) (dst : Rect)
    (clip : Option Rect) : Except Fault BareAnswer :=
  match (tryDefaults damage size dst clip).run ⟨config, 0, []⟩ with
  | (.ok (create, beginLayer, copy), d) => .ok ⟨create, beginLayer, copy, d.outside.reverse⟩
  | (.error fault, _) => .error fault

end RenderRelay.Bench
