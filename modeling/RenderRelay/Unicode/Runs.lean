/-!
Runs: tables that assign a value to every code, in stretches of equal value.
-/

namespace RenderRelay.Unicode

/-- Where each stretch begins, and its value, in ascending order. -/
abbrev Runs (α : Type) := List (Nat × α)

namespace Runs

/-- The value of a code; `before` is the value of the codes before the first stretch. -/
def valueAt {α : Type} (before : α) (code : Nat) : Runs α → α
  | [] => before
  | (start, value) :: rest => if code < start then before else valueAt value code rest

end Runs

abbrev Ranges := List (Nat × Nat)

/-- Whether a code is in one of the ranges. -/
def Ranges.contains (ranges : Ranges) (code : Nat) : Bool :=
  ranges.any fun range => range.1 ≤ code && code ≤ range.2

end RenderRelay.Unicode
