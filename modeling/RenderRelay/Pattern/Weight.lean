import RenderRelay.Pattern.Expr

/-!
How heavy a pattern is: about how many bytes an automaton for it would take that works byte by byte.
Counted repetition copies the body, so a short pattern can be very heavy.
-/

namespace RenderRelay.Pattern

def weightLimit : Nat := 10 * 1024 * 1024

def stateWeight : Nat := 32

/-- What a way from one state to another weighs. -/
def wayWeight : Nat := 8

/-- What the choice between going on and leaving weighs. -/
def choiceWeight : Nat := stateWeight + wayWeight

/-- What all characters weigh: nine states and seventeen ways between them lead through the bytes
that a character can have. -/
def wideWeight : Nat := 9 * stateWeight + 17 * wayWeight

mutual

/-- What a set weighs within the one it stands in. -/
def ClassSet.weight : ClassSet → Nat
  | .empty _ => 0
  | .literal l => wayWeight * l.char.utf8Size
  | .range _ _ last => wayWeight * last.char.utf8Size
  | .ascii _ negated _ => if negated then wideWeight else 2 * wayWeight
  | .named n => if n.negated then wideWeight else 2 * wayWeight
  | .bracketed _ negated set => set.weight + if negated then wideWeight else 0
  | .union _ items => ClassSet.weights items
  | .operation _ _ left right => left.weight + right.weight

def ClassSet.weights : List ClassSet → Nat
  | [] => 0
  | set :: rest => set.weight + ClassSet.weights rest

end

/-- What a body of some weight weighs when it is repeated. -/
def repeatedWeight (least : Nat) (most : Option Nat) (weight : Nat) : Nat :=
  if weight = 0 then 0
  else
    match most with
    | none => max 1 least * weight + choiceWeight
    | some most => most * weight + (most - least) * choiceWeight

mutual

def Expr.weight : Expr → Nat
  | .empty _ => 0
  | .modes .. => 0
  | .literal l => stateWeight * l.char.utf8Size
  | .dot _ => wideWeight
  | .assertion .. => 0
  | .named _ => 2 * choiceWeight
  | .bracketed _ negated set =>
    set.weight + if negated then wideWeight else 2 * stateWeight
  | .repetition _ least most body => repeatedWeight least most body.weight
  | .group _ _ body => body.weight
  | .alternation _ branches => Expr.weights branches
  | .sequence _ parts => Expr.weights parts

def Expr.weights : List Expr → Nat
  | [] => 0
  | e :: rest => e.weight + Expr.weights rest

end

end RenderRelay.Pattern
