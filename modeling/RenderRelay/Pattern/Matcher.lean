/-!
Patterns and where they occur in texts. A pattern leads from places in a text to places in it; a
place is the number of characters before it, and a set of places has a truth value for each.
-/

namespace RenderRelay

abbrev CharSet := Char → Bool

/-- What a place must have around it: before it and behind it there may be a character. -/
abbrev Edge := Option Char → Option Char → Bool

/-- A pattern for parts of texts. -/
inductive Pattern where
  | empty
  | char (set : CharSet)
  /-- Nothing, at a place with the right surroundings. -/
  | edge (edge : Edge)
  | seq (first second : Pattern)
  | either (first second : Pattern)
  /-- The body `least` times or more, and `most` times or less if there is a limit. -/
  | repeated (least : Nat) (most : Option Nat) (body : Pattern)
  /-- A part that cannot be told from others; it occurs nowhere. -/
  | unknown

namespace Pattern

def never : Pattern := .char fun _ => false

def isKnown : Pattern → Bool
  | seq first second => first.isKnown && second.isKnown
  | either first second => first.isKnown && second.isKnown
  | repeated _ _ body => body.isKnown
  | unknown => false
  | _ => true

/-- A set of places in a text of n characters: n + 1 truth values. -/
abbrev Places := List Bool

namespace Places

def all (text : List Char) : Places := List.replicate (text.length + 1) true

def union (ps qs : Places) : Places := List.zipWith (· || ·) ps qs

/-- The places behind those that have a character of the set behind them. -/
def advance (set : CharSet) (text : List Char) (ps : Places) : Places :=
  false :: List.zipWith (fun here c => here && set c) ps text

/-- For each place whether it has the right surroundings; `before` is the character before the
first. -/
def withEdge (edge : Edge) (before : Option Char) : List Char → Places
  | [] => [edge before none]
  | c :: rest => edge before (some c) :: withEdge edge (some c) rest

/-- Takes a step a number of times. Where a step changes nothing the others do not either. -/
def iterate (step : Places → Places) : Nat → Places → Places
  | 0, ps => ps
  | n + 1, ps =>
    let qs := step ps
    if qs = ps then ps else iterate step n qs

/-- Takes a step at most a number of times. -/
def grow (step : Places → Places) : Nat → Places → Places :=
  iterate fun ps => ps.union (step ps)

end Places

/-- The places where the pattern can end when it begins at one of the given places. Unlimited
repetition reaches a new place with each round or has reached them all. -/
def reach (text : List Char) : Pattern → Places → Places
  | empty, ps => ps
  | char set, ps => ps.advance set text
  | edge e, ps => List.zipWith (· && ·) ps (Places.withEdge e none text)
  | seq first second, ps => reach text second (reach text first ps)
  | either first second, ps => (reach text first ps).union (reach text second ps)
  | repeated least most body, ps =>
    let step := reach text body
    let rounds := most.elim (text.length + 1) (· - least)
    (Places.iterate step least ps).grow step rounds
  | unknown, ps => ps.map fun _ => false

def occursIn (p : Pattern) (text : String) : Bool :=
  (p.reach text.toList (.all text.toList)).any id

end Pattern

end RenderRelay
