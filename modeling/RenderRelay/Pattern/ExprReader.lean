import RenderRelay.Pattern.ClassReader

/-!
Reading whole patterns: sequences of parts, with groups, branches, modes and repetition.
-/

namespace RenderRelay.Pattern

/-- The parts of a sequence so far, the last one first, and where it begins. -/
structure Parts where
  start : Place
  items : List Expr

namespace Parts

def push (p : Parts) (e : Expr) : Parts := { p with items := e :: p.items }

/-- The sequence of all parts up to a place. -/
def toExpr (p : Parts) (stop : Place) : Expr :=
  match p.items with
  | [] => .empty ⟨p.start, stop⟩
  | [e] => e
  | items => .sequence ⟨p.start, stop⟩ items.reverse

end Parts

/-- What is still open while a pattern is read. -/
inductive Frame where
  /-- A group, the sequence it is a part of, and how that was read on. -/
  | group (outer : Parts) (span : Span) (items : List ModeItem) (spaced : Bool)
  /-- The branches before the one that is read, the last one first. -/
  | branches (start : Place) (done : List Expr)

/-- What a pattern has come to so far. -/
structure Reading where
  cursor : Cursor
  frames : List Frame
  parts : Parts
  /-- The names of groups and where they are. -/
  names : List (String × Span)

/-! ### Modes and groups -/

def Mode.ofLetter? : Char → Option Mode
  | 'i' => some caseless
  | 'm' => some multiLine
  | 's' => some dotMatchesAll
  | 'U' => some swapGreed
  | 'u' => some characters
  | 'R' => some carriageReturns
  | 'x' => some spaced
  | _ => none

/-- Reads modes up to the sign that ends them; the items come last first. `fuel` items at most. -/
def readModes : Nat → List ModeItem → Cursor → Except ReadError (List ModeItem × Cursor)
  | 0, _, c => fail .modeUnexpectedEnd c.point
  | fuel + 1, items, c =>
    let take (mode : Option Mode) (repeated : Flaw) :
        Except ReadError (List ModeItem × Cursor) :=
      match items.find? fun item => item.mode = mode with
      | some item => .error ⟨repeated, c.charSpan, some item.span⟩
      | none =>
        let items := ⟨c.charSpan, mode⟩ :: items
        if c.next.atEnd then fail .modeUnexpectedEnd c.next.point
        else readModes fuel items c.next
    match c.char? with
    | none => fail .modeUnexpectedEnd c.point
    | some a =>
      if a = ':' || a = ')' then
        match items with
        | ⟨span, none⟩ :: _ => fail .modeDanglingNegation span
        | _ => .ok (items, c)
      else if a = '-' then take none .modeRepeatedNegation
      else
        match Mode.ofLetter? a with
        | none => fail .modeUnrecognized c.charSpan
        | some mode => take (some mode) .modeDuplicate

/-- Whether a character may stand in the name of a group. -/
def isNameChar (isFirst : Bool) (c : Char) : Bool :=
  if isFirst then c = '_' || Unicode.isAlphabetic c
  else c = '_' || c = '.' || c = '[' || c = ']' || Unicode.isAlphanumeric c

/-- Reads the characters of a name; `fuel` characters at most. -/
def readNameChars (isFirst : Bool) : Nat → Cursor → Except ReadError (List Char × Cursor)
  | 0, c => .ok ([], c)
  | fuel + 1, c =>
    match c.char? with
    | none => .ok ([], c)
    | some '>' => .ok ([], c)
    | some a => do
      if isNameChar isFirst a then
        let (name, c) ← readNameChars false fuel c.next
        return (a :: name, c)
      else fail .groupNameInvalid c.charSpan

/-- Reads the name of a group up to the sign that ends it. -/
def readName (names : List (String × Span)) (c : Cursor) :
    Except ReadError (List (String × Span) × Cursor) := do
  let start := c.place
  let (name, c) ← readNameChars true c.rest.length c
  if c.atEnd then fail .groupNameUnexpectedEnd c.point
  else if name.isEmpty then fail .groupNameEmpty ⟨start, start⟩
  else
    let span := c.since start
    let name := String.ofList name
    match names.find? fun entry => entry.1 = name with
    | some entry => .error ⟨.groupNameDuplicate, span, some entry.2⟩
    | none => return ((name, span) :: names, c.next)

/-- What may stand behind the sign of a look around, which patterns do not have. -/
def lookAroundSigns : List String := ["?=", "?!", "?<=", "?<!"]

/-- Opens a group, or reads modes for what follows; the cursor is at the parenthesis. -/
def openGroup (r : Reading) : Except ReadError Reading := do
  let c := r.cursor
  let span := c.charSpan
  let c := c.nextPart
  let spaced := c.spaced
  let enter (c : Cursor) (items : List ModeItem) (names : List (String × Span)) : Reading :=
    let c := { c with spaced := (ModeItem.find? .spaced items).getD spaced }
    { cursor := c, frames := .group r.parts span items spaced :: r.frames
      parts := ⟨c.place, []⟩, names }
  match lookAroundSigns.findSome? (c.behind? ·) with
  | some c => fail .unsupportedLookAround (c.since span.start)
  | none =>
    match (c.behind? "?P<").or (c.behind? "?<") with
    | some c => do
      let (names, c) ← readName r.names c
      return enter c [] names
    | none =>
      match c.behind? "?" with
      | none => return enter c [] r.names
      | some inside =>
        if inside.atEnd then fail .groupUnclosed span
        else
          let (items, inside) ← readModes (inside.rest.length + 1) [] inside
          let items := items.reverse
          let behind := inside.next
          if inside.char? = some ':' then return enter behind items r.names
          else if items.isEmpty then fail .repetitionMissing c.point
          else
            let behind := { behind with spaced := (ModeItem.find? .spaced items).getD spaced }
            let modes := Expr.modes (behind.since span.start) items
            return { r with cursor := behind, parts := r.parts.push modes }

/-- Closes a group; the cursor is at the parenthesis. -/
def closeGroup (r : Reading) : Except ReadError Reading :=
  let c := r.cursor
  let last := r.parts.toExpr c.place
  let leave (outer : Parts) (span : Span) (items : List ModeItem) (spaced : Bool) (body : Expr)
      (frames : List Frame) : Reading :=
    let behind := c.next
    let group := Expr.group (behind.since span.start) items body
    { r with cursor := { behind with spaced }, frames, parts := outer.push group }
  match r.frames with
  | .group outer span items spaced :: frames => .ok (leave outer span items spaced last frames)
  | .branches start done :: .group outer span items spaced :: frames =>
    let body := Expr.alternation ⟨start, c.place⟩ (last :: done).reverse
    .ok (leave outer span items spaced body frames)
  | _ => fail .groupUnopened c.charSpan

/-- Ends a branch; the cursor is at the bar. -/
def nextBranch (r : Reading) : Reading :=
  let c := r.cursor
  let last := r.parts.toExpr c.place
  let frames : List Frame :=
    match r.frames with
    | .branches start done :: frames => .branches start (last :: done) :: frames
    | frames => .branches r.parts.start [last] :: frames
  { r with cursor := c.next, frames, parts := ⟨c.next.place, []⟩ }

def finish (r : Reading) : Except ReadError Expr :=
  let stop := r.cursor.place
  let last := r.parts.toExpr stop
  match r.frames with
  | [] => .ok last
  | [.branches start done] => .ok (.alternation ⟨start, stop⟩ (last :: done).reverse)
  | .group _ span _ _ :: _ => fail .groupUnclosed span
  | .branches .. :: .group _ span _ _ :: _ => fail .groupUnclosed span
  | .branches start _ :: .branches .. :: _ => fail .groupUnclosed ⟨start, stop⟩

/-! ### Repetition -/

/-- Repeats the last part; the cursor is behind the operator. -/
def repeatLast (r : Reading) (least : Nat) (most : Option Nat) (body : Expr) (outer : List Expr)
    (c : Cursor) : Reading :=
  let c := if c.char? = some '?' then c.next else c
  let e := Expr.repetition ⟨body.span.start, c.place⟩ least most body
  { r with cursor := c, parts := { r.parts with items := e :: outer } }

/-- The last part, if it can be repeated, and the parts before it. -/
def repeatable (r : Reading) : Except ReadError (Expr × List Expr) :=
  match r.parts.items with
  | body :: outer =>
    if body.isRepeatable then .ok (body, outer) else fail .repetitionMissing r.cursor.point
  | [] => fail .repetitionMissing r.cursor.point

def readRepetition (r : Reading) (least : Nat) (most : Option Nat) : Except ReadError Reading := do
  let (body, outer) ← repeatable r
  return repeatLast r least most body outer r.cursor.next

def readCounted (r : Reading) : Except ReadError Reading := do
  let (body, outer) ← repeatable r
  let start := r.cursor.place
  let unclosed (c : Cursor) : Except ReadError Reading :=
    fail .repetitionCountUnclosed (c.since start)
  let close (least : Nat) (most : Option Nat) (c : Cursor) : Except ReadError Reading :=
    if c.char? = some '\x7d' then
      let r := repeatLast r least most body outer c.nextPart
      if most.any (· < least) then fail .repetitionCountInvalid (r.cursor.since start)
      else .ok r
    else unclosed c
  let c := r.cursor.nextPart
  if c.atEnd then unclosed c
  else
    let (least, c) := c.readCount
    if c.atEnd then unclosed c
    else if c.char? = some ',' then
      let c := c.nextPart
      if c.atEnd then unclosed c
      else
        let least ← least
        if c.char? = some '\x7d' then close least none c
        else
          let (most, c) := c.readCount
          close least (some (← most)) c
    else
      let least ← least
      close least (some least) c

/-! ### Whole patterns -/

/-- Reads a part that is one character or an escape. -/
def readPrimitive (a : Char) (r : Reading) : Except ReadError Reading := do
  let c := r.cursor
  let span := c.charSpan
  let (e, c) ←
    match a with
    | '\\' => do
      let (p, c) ← c.readEscape
      pure (p.toExpr, c)
    | '.' => pure (.dot span, c.next)
    | '^' => pure (.assertion span .startLine, c.next)
    | '$' => pure (.assertion span .endLine, c.next)
    | a => pure (.literal ⟨span, a, false⟩, c.next)
  return { r with cursor := c, parts := r.parts.push e }

def readPart (a : Char) (r : Reading) : Except ReadError Reading :=
  match a with
  | '(' => openGroup r
  | ')' => closeGroup r
  | '|' => .ok (nextBranch r)
  | '[' => do
    let (set, c) ← r.cursor.readClass
    return { r with
      cursor := c
      parts := r.parts.push (.bracketed set.span set.negated set.set) }
  | '?' => readRepetition r 0 (some 1)
  | '*' => readRepetition r 0 none
  | '+' => readRepetition r 1 none
  | '\x7b' => readCounted r
  | a => readPrimitive a r

/-- Reads parts up to the end; `fuel` parts at most. -/
def readParts : Nat → Reading → Except ReadError Reading
  | 0, r => .ok r
  | fuel + 1, r =>
    let r := { r with cursor := r.cursor.skip }
    match r.cursor.char? with
    | none => .ok r
    | some a => do readParts fuel (← readPart a r)

def readExpr (text : String) : Except ReadError Expr := do
  let chars := text.toList
  let r ← readParts (chars.length + 1) ⟨⟨chars, .first, false⟩, [], ⟨.first, []⟩, []⟩
  let e ← finish r
  e.checkDepth 0
  return e

end RenderRelay.Pattern
