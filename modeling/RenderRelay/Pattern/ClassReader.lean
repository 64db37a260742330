import RenderRelay.Pattern.Cursor

/-!
Reading sets of characters in brackets. Sets may stand in sets, and two may be joined by an
operator; of several operators each takes all that stands before it.
-/

namespace RenderRelay.Pattern

/-- The items of a set so far, the last one first, and the span they take. -/
structure ClassItems where
  span : Span
  items : List ClassSet

namespace ClassItems

def none (place : Place) : ClassItems := ⟨⟨place, place⟩, []⟩

def push (u : ClassItems) (item : ClassSet) : ClassItems :=
  let start := if u.items.isEmpty then item.span.start else u.span.start
  ⟨⟨start, item.span.stop⟩, item :: u.items⟩

def toSet (u : ClassItems) : ClassSet :=
  match u.items with
  | [] => .empty u.span
  | [item] => item
  | items => .union u.span items.reverse

end ClassItems

/-- What is still open while a set is read. -/
inductive ClassFrame where
  /-- A bracket, and the items of the set it stands in. -/
  | opened (outer : ClassItems) (span : Span) (negated : Bool)
  | operator (operator : SetOperator) (left : ClassSet)

/-- A set in brackets. -/
structure BracketedClass where
  span : Span
  negated : Bool
  set : ClassSet

/-- Joins a set to what an operator before it waits for. -/
def joinOperator (right : ClassSet) : List ClassFrame → ClassSet × List ClassFrame
  | .operator operator left :: frames =>
    (.operation ⟨left.span.start, right.span.stop⟩ operator left right, frames)
  | frames => (right, frames)

/-- The failure of a set that is not closed: at the innermost bracket that is open. -/
def unclosed {α : Type} (c : Cursor) : List ClassFrame → Except ReadError α
  | .opened _ span _ :: _ => fail .classUnclosed span
  | .operator .. :: frames => unclosed c frames
  | [] => fail .classUnclosed c.point

namespace Cursor

/-- Takes hyphens that begin a set as items of it. `fuel` hyphens at most. -/
def takeHyphens (start : Place) : Nat → ClassItems → Cursor → Except ReadError (ClassItems × Cursor)
  | 0, u, c => .ok (u, c)
  | fuel + 1, u, c =>
    if c.char? = some '-' then
      let u := u.push (.literal ⟨c.charSpan, '-', false⟩)
      let c := c.nextPart
      if c.atEnd then fail .classUnclosed ⟨start, start⟩ else takeHyphens start fuel u c
    else .ok (u, c)

/-- Opens a set; the cursor is at its bracket. Hyphens that come first are items, and so is a
closing bracket that does. -/
def openClass (outer : ClassItems) (c : Cursor) :
    Except ReadError (ClassFrame × ClassItems × Cursor) := do
  let start := c.place
  let c := c.nextPart
  if c.atEnd then fail .classUnclosed (c.since start)
  else
    let negated := c.char? = some '^'
    let c := if negated then c.nextPart else c
    if c.atEnd then fail .classUnclosed (c.since start)
    else
      let (u, c) ← c.takeHyphens start c.rest.length (.none c.place)
      if u.items.isEmpty && c.char? = some ']' then
        let u := u.push (.literal ⟨c.charSpan, ']', false⟩)
        let c := c.nextPart
        if c.atEnd then fail .classUnclosed (c.since start)
        else return (.opened outer (c.since start) negated, u, c)
      else return (.opened outer (c.since start) negated, u, c)

/-- Reads the name of a set of ASCII between its own brackets, if one is there. -/
def readAsciiClass? (c : Cursor) : Option (ClassSet × Cursor) := do
  let start := c.place
  let c ← c.behind? "[:"
  let negated := c.char? = some '^'
  let c := if negated then c.next else c
  let (name, behind) := { c with spaced := false }.takeAll (· ≠ ':')
  let behind ← behind.behind? ":]"
  let name ← AsciiClass.ofName? name
  return (.ascii (behind.since start) negated name, { behind with spaced := c.spaced })

/-- Reads one end of a range, or an item that is none. -/
def readClassPrimitive (c : Cursor) : Except ReadError (Primitive × Cursor) :=
  match c.char? with
  | none => fail .classUnclosed c.point
  | some '\\' => c.readEscape
  | some a => .ok (.literal ⟨c.charSpan, a, false⟩, c.next)

/-- Reads an item of a set that is no bracket: a range, or a single thing. A hyphen that another one
or the closing bracket follows makes no range. -/
def readClassItem (frames : List ClassFrame) (c : Cursor) :
    Except ReadError (ClassSet × Cursor) := do
  let (first, c) ← c.readClassPrimitive
  let c := c.skip
  if c.atEnd then unclosed c frames
  else if c.char? ≠ some '-' || c.peekPart? = some ']' || c.peekPart? = some '-' then
    return (← first.toClassSet, c)
  else
    let c := c.nextPart
    if c.atEnd then unclosed c frames
    else
      let (last, c) ← c.readClassPrimitive
      let span : Span := ⟨first.span.start, last.span.stop⟩
      let first ← first.toLiteral
      let last ← last.toLiteral
      if first.char ≤ last.char then return (.range span first last, c)
      else fail .classRangeInvalid span

/-- The operator that comes next, and the cursor behind it. -/
def readOperator? (c : Cursor) : Option (SetOperator × Cursor) :=
  let read (text : String) (operator : SetOperator) : Option (SetOperator × Cursor) :=
    (c.behind? text).map fun c => (operator, c)
  (read "&&" .intersection).or ((read "--" .difference).or (read "~~" .symmetricDifference))

/-- Reads a set to its end. `fuel` items, brackets and operators at most. -/
def readClassFrom : Nat → List ClassFrame → ClassItems → Cursor →
    Except ReadError (BracketedClass × Cursor)
  | 0, frames, _, c => unclosed c frames
  | fuel + 1, frames, u, c => do
    let c := c.skip
    if c.atEnd then unclosed c frames
    else if c.char? = some '[' then
      match c.readAsciiClass? with
      | some (item, c) => readClassFrom fuel frames (u.push item) c
      | none => do
        let (frame, u, c) ← c.openClass u
        readClassFrom fuel (frame :: frames) u c
    else if c.char? = some ']' then
      match joinOperator u.toSet frames with
      | (set, .opened outer span negated :: frames) =>
        let c := c.next
        let span : Span := ⟨span.start, c.place⟩
        if frames.isEmpty then return (⟨span, negated, set⟩, c)
        else readClassFrom fuel frames (outer.push (.bracketed span negated set)) c
      | (_, frames) => unclosed c frames
    else
      match c.readOperator? with
      | some (operator, c) =>
        let (left, frames) := joinOperator u.toSet frames
        readClassFrom fuel (.operator operator left :: frames) (.none c.place) c
      | none => do
        let (item, c) ← c.readClassItem frames
        readClassFrom fuel frames (u.push item) c

/-- Reads a set; the cursor is at its bracket. -/
def readClass (c : Cursor) : Except ReadError (BracketedClass × Cursor) := do
  let fuel := c.rest.length
  let (frame, u, c) ← c.openClass (.none c.place)
  readClassFrom fuel [frame] u c

end Cursor

end RenderRelay.Pattern
