import RenderRelay.Capabilities
import RenderRelay.Geometry.Viewport
import RenderRelay.Text.Quoted

/-!
The errors that rendering operations hand back to their callers, and their wording.
-/

namespace RenderRelay

/-- What could not be allocated. -/
inductive Shortage where
  /-- A pixel buffer above the budget; `what` says which one. -/
  | buffer (what : String) (size : Viewport) (bytes budget : Nat)
  | canvasLimit (limit : Nat)
  | surfaceBuffers (label : String)
  | emptyLayer (size : Viewport)
  | described (text : String)
  deriving DecidableEq

def Shortage.text : Shortage → String
  | buffer what size bytes budget =>
    s!"{what} {size.width}x{size.height} needs {bytes} bytes, budget is {budget}"
  | canvasLimit limit => s!"canvas limit reached ({limit} live)"
  | surfaceBuffers label => s!"buffers for surface '{label}'"
  | emptyLayer size => s!"empty layer {size.width}x{size.height}"
  | described text => text

/-- Why an operation failed. -/
inductive RenderError where
  | allocationFailure (what : Shortage)
  /-- The context is unset, disabled or destroyed, or the handle is unknown. -/
  | invalidHandle
  | unsupported (missing : Capabilities)
  deriving DecidableEq

namespace RenderError

/-- The shortage of a surface that a window system refused. -/
def windowSurface (reason : String) : RenderError :=
  .allocationFailure (.described s!"window surface: {reason}")

def message : RenderError → String
  | allocationFailure what => s!"allocation failed: {what.text}"
  | invalidHandle => "invalid or destroyed rendering handle"
  | unsupported missing => s!"operation requires unsupported capability {missing.text}"

def isRecoverable : RenderError → Bool
  | allocationFailure _ => true
  | _ => false

def debugText : RenderError → String
  | allocationFailure what =>
    "AllocationFailure \x7b what: " ++ Text.Quoted.encode what.text ++ " \x7d"
  | invalidHandle => "InvalidHandle"
  | unsupported missing => s!"UnsupportedOperation({missing.text})"

end RenderError

end RenderRelay
