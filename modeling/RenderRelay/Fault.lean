/-!
Broken invariants that end the operation they occur in, and on a render thread outside functors and
tasks the thread itself. They are told apart from the errors of `RenderError`, which an operation
hands back to its caller.
-/

namespace RenderRelay

/-- Why an operation could not be carried through. -/
inductive Fault where
  | multiplyOverflow
  | subtractOverflow
  | addOverflow
  /-- More memory was asked for at once than can be addressed. -/
  | capacityOverflow
  | unmatchedPopClip
  | unbalancedFinish
  | backendCrash
  /-- Of `length` things numbered from zero, none has the number `index`. -/
  | indexOutOfBounds (length index : Nat)
  deriving DecidableEq

def Fault.message : Fault → String
  | multiplyOverflow => "attempt to multiply with overflow"
  | subtractOverflow => "attempt to subtract with overflow"
  | addOverflow => "attempt to add with overflow"
  | capacityOverflow => "capacity overflow"
  | unmatchedPopClip => "pop_clip called without matching push_clip"
  | unbalancedFinish => "unbalanced push_clip at finish"
  | backendCrash => "backend crashed"
  | indexOutOfBounds length index =>
    s!"index out of bounds: the len is {length} but the index is {index}"

end RenderRelay
