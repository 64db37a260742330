import RenderRelay.Pattern.Expr
import RenderRelay.Unicode.Property

/-!
A cursor in the text of a pattern, and what is read by it alone: counts, escapes, and the names of
sets of characters.
-/

namespace RenderRelay.Pattern

/-- What is still to be read, and where that begins. -/
structure Cursor where
  rest : List Char
  place : Place
  /-- Whether blanks and comments between the parts of a pattern are left out. -/
  spaced : Bool

def fail {α : Type} (flaw : Flaw) (span : Span) : Except ReadError α := .error ⟨flaw, span, none⟩

namespace Cursor

def atEnd (c : Cursor) : Bool := c.rest.isEmpty

def char? (c : Cursor) : Option Char := c.rest.head?

def next (c : Cursor) : Cursor :=
  match c.rest with
  | [] => c
  | a :: rest => { c with rest, place := c.place.after a }

/-- What follows blanks and comments, and where. A comment runs from its sign to the end of the
line; `comment` says whether one is open. -/
def skipFrom (comment : Bool) : List Char → Place → List Char × Place
  | [], p => ([], p)
  | a :: rest, p =>
    if comment then skipFrom (a ≠ '\n') rest (p.after a)
    else if Unicode.isBlank a then skipFrom false rest (p.after a)
    else if a = '#' then skipFrom true rest (p.after a)
    else (a :: rest, p)

/-- The cursor at the next part of the pattern. -/
def skip (c : Cursor) : Cursor :=
  if c.spaced then
    let (rest, place) := skipFrom false c.rest c.place
    { c with rest, place }
  else c

/-- The cursor at the part behind the next character. -/
def nextPart (c : Cursor) : Cursor := c.next.skip

/-- The cursor behind a text, if that comes next. -/
def behind? (text : String) (c : Cursor) : Option Cursor :=
  if text.toList.isPrefixOf c.rest then some (text.toList.foldl (fun c _ => c.next) c) else none

/-- The cursor behind a text, if that comes next, and else the cursor as it is. -/
def skipText (text : String) (c : Cursor) : Cursor := (c.behind? text).getD c

def peek? (c : Cursor) : Option Char := c.rest[1]?

/-- The character that begins the part behind the next one; of a comment only the sign is left
out. -/
def peekPart? (c : Cursor) : Option Char :=
  if c.spaced then
    let rest := c.rest.drop 1
    let beyond := rest.dropWhile Unicode.isBlank
    let beyond :=
      if beyond.head? = some '#' then (beyond.drop 1).dropWhile Unicode.isBlank else beyond
    (if beyond.isEmpty then rest else beyond).head?
  else c.peek?

def point (c : Cursor) : Span := ⟨c.place, c.place⟩

def charSpan (c : Cursor) : Span := ⟨c.place, c.next.place⟩

def since (c : Cursor) (start : Place) : Span := ⟨start, c.place⟩

/-! ### Counts -/

/-- Reads characters of a kind; behind each comes the next part. `fuel` characters at most. -/
def takeParts (kind : Char → Bool) : Nat → Cursor → List Char × Cursor
  | 0, c => ([], c)
  | fuel + 1, c =>
    match c.char? with
    | none => ([], c)
    | some a =>
      if kind a then
        let (taken, c) := takeParts kind fuel c.nextPart
        (a :: taken, c)
      else ([], c)

/-- Reads all characters of a kind; behind each comes the next part. -/
def takeAll (kind : Char → Bool) (c : Cursor) : List Char × Cursor :=
  c.takeParts kind c.rest.length

/-- The number that digits of a base stand for. -/
def valueOf (base : Nat) (digits : List Char) : Nat :=
  digits.foldl (fun n d => base * n + digitValue d) 0
where
  digitValue (d : Char) : Nat :=
    if d.isDigit then d.toNat - '0'.toNat
    else if 'a' ≤ d then d.toNat - 'a'.toNat + 10
    else d.toNat - 'A'.toNat + 10

def greatestCount : Nat := 0xffffffff

/-- Reads a count, with the blanks around it. Whether it is one can be told before what follows. -/
def readCount (c : Cursor) : Except ReadError Nat × Cursor :=
  let c := { ({ c with spaced := false }.takeAll Unicode.isBlank).2 with spaced := c.spaced }
  let (digits, behind) := c.takeAll Char.isDigit
  let span := behind.since c.place
  let (_, beyond) := behind.takeAll Unicode.isBlank
  let count :=
    if digits.isEmpty then fail .repetitionCountDecimalEmpty span
    else
      let n := valueOf 10 digits
      if n ≤ greatestCount then .ok n else fail .decimalInvalid span
  (count, beyond)

/-! ### Escapes -/

/-- What an escape can stand for. -/
inductive Primitive where
  | literal (literal : Literal)
  | dot (span : Span)
  | assertion (span : Span) (assertion : Assertion)
  | named (name : NamedClass)

namespace Primitive

def span : Primitive → Span
  | literal l => l.span
  | dot span => span
  | assertion span _ => span
  | named n => n.span

def toExpr : Primitive → Expr
  | literal l => .literal l
  | dot span => .dot span
  | assertion span a => .assertion span a
  | named n => .named n

def toClassSet : Primitive → Except ReadError ClassSet
  | literal l => .ok (.literal l)
  | named n => .ok (.named n)
  | p => fail .classEscapeInvalid p.span

def toLiteral : Primitive → Except ReadError Literal
  | literal l => .ok l
  | p => fail .classRangeLiteral p.span

end Primitive

def isHexDigit (c : Char) : Bool :=
  c.isDigit || ('a' ≤ c && c ≤ 'f') || ('A' ≤ c && c ≤ 'F')

/-- The character of a code, if there is one. -/
def charOfCode? (code : Nat) : Option Char :=
  if h : code.isValidChar then some (Char.ofNatAux code h) else none

def readHexDigits : Nat → Cursor → Except ReadError (List Char × Cursor)
  | 0, c => .ok ([], c)
  | n + 1, c =>
    match c.char? with
    | none => fail .escapeUnexpectedEnd c.point
    | some a => do
      if isHexDigit a then
        let (digits, c) ← readHexDigits n c.nextPart
        return (a :: digits, c)
      else fail .escapeHexInvalidDigit c.charSpan

/-- Reads a code that is written with a fixed number of digits. -/
def readFixedHex (places : Nat) (c : Cursor) : Except ReadError (Char × Cursor) := do
  let start := c.place
  let (digits, c) ← readHexDigits places c
  match charOfCode? (valueOf 16 digits) with
  | some a => return (a, c)
  | none => fail .escapeHexInvalid (c.since start)

def readBracedHex (c : Cursor) : Except ReadError (Char × Cursor) := do
  let brace := c.place
  let start := c.next.place
  let (digits, c) := c.nextPart.takeAll isHexDigit
  match c.char? with
  | none => fail .escapeUnexpectedEnd (c.since brace)
  | some '\x7d' =>
    let stop := c.place
    let c := c.nextPart
    if digits.isEmpty then fail .escapeHexEmpty (c.since brace)
    else
      match charOfCode? (valueOf 16 digits) with
      | some a => return (a, c)
      | none => fail .escapeHexInvalid ⟨start, stop⟩
  | some _ => fail .escapeHexInvalidDigit c.charSpan

/-- Reads a character by its code; the cursor is at the letter that says how it is written. -/
def readHex (start : Place) (letter : Char) (c : Cursor) :
    Except ReadError (Primitive × Cursor) := do
  let c := c.nextPart
  if c.atEnd then fail .escapeUnexpectedEnd c.point
  else
    let places := if letter = 'x' then 2 else if letter = 'u' then 4 else 8
    let braced := c.char? = some '\x7b'
    let (a, c) ← if braced then c.readBracedHex else c.readFixedHex places
    return (.literal ⟨c.since start, a, letter = 'x' && !braced⟩, c)

/-- Cuts a text at the first occurrence of another. -/
def cutAt? (separator : List Char) : List Char → Option (List Char × List Char)
  | [] => none
  | a :: rest =>
    if separator.isPrefixOf (a :: rest) then some ([], (a :: rest).drop separator.length)
    else (cutAt? separator rest).map fun (before, beyond) => (a :: before, beyond)

/-- The property that a text in braces names, with a value if it is given. -/
def propertyOf (text : List Char) : ClassName :=
  let cut := (cutAt? ['!', '='] text).or ((cutAt? [':'] text).or (cutAt? ['='] text))
  match cut with
  | some (property, value) => .propertyValue (.ofList property) (.ofList value)
  | none => .property (.ofList text)

/-- Reads the name of a property; the cursor is at the letter that announces it. -/
def readProperty (start : Place) (letter : Char) (c : Cursor) :
    Except ReadError (Primitive × Cursor) := do
  let negated := letter = 'P'
  let c := c.nextPart
  match c.char? with
  | none => fail .escapeUnexpectedEnd c.point
  | some '\x7b' =>
    let (text, c) := c.nextPart.takeAll (· ≠ '\x7d')
    if c.atEnd then fail .escapeUnexpectedEnd c.point
    else
      let c := c.next
      return (.named ⟨c.since start, negated, propertyOf text⟩, c)
  | some '\\' => fail .propertyNameInvalid c.charSpan
  | some a =>
    let c := c.nextPart
    return (.named ⟨c.since start, negated, .property (.singleton a)⟩, c)

/-- Reads the braces of a special word boundary, if that is what they are. The cursor is at the
opening brace, `start` where the boundary begins. -/
def readWordBoundary (start : Place) (c : Cursor) :
    Except ReadError (Option (Assertion × Cursor)) :=
  let isLetter (a : Char) : Bool := a.isAlpha || a = '-'
  let brace := c.place
  let c := c.nextPart
  match c.char? with
  | none => fail .wordBoundaryOrRepetitionUnexpectedEnd (c.since start)
  | some a =>
    if isLetter a then
      let contents := c.place
      let (text, c) := c.takeAll isLetter
      if c.char? = some '\x7d' then
        let behind := c.next
        match String.ofList text with
        | "start" => .ok (some (.wordStart, behind))
        | "end" => .ok (some (.wordEnd, behind))
        | "start-half" => .ok (some (.wordStartHalf, behind))
        | "end-half" => .ok (some (.wordEndHalf, behind))
        | _ => fail .wordBoundaryUnrecognized (c.since contents)
      else fail .wordBoundaryUnclosed (c.since brace)
    else .ok none

/-- Characters that mean something in patterns unless they are escaped. -/
def isMeta (c : Char) : Bool := "\\.+*?()|[]\x7b\x7d^$#&-~".toList.contains c

/-- Characters that may be escaped to stand for themselves. -/
def isEscapable (c : Char) : Bool :=
  isMeta c || (c.toNat < 0x80 && !c.isAlphanum && c ≠ '<' && c ≠ '>')

/-- The character that a letter behind a backslash stands for. -/
def controlOf? : Char → Option Char
  | 'a' => some '\x07'
  | 'f' => some '\x0c'
  | 't' => some '\t'
  | 'n' => some '\n'
  | 'r' => some '\r'
  | 'v' => some '\x0b'
  | _ => none

/-- The set that a letter behind a backslash names, and whether it is the set itself. -/
def classOf? : Char → Option (ClassName × Bool)
  | 'd' => some (.digits, true)
  | 'D' => some (.digits, false)
  | 's' => some (.blanks, true)
  | 'S' => some (.blanks, false)
  | 'w' => some (.wordChars, true)
  | 'W' => some (.wordChars, false)
  | _ => none

/-- The assertion that a character behind a backslash stands for. -/
def assertionOf? : Char → Option Assertion
  | 'A' => some .startText
  | 'z' => some .endText
  | 'b' => some .wordBoundary
  | 'B' => some .notWordBoundary
  | '<' => some .wordStart
  | '>' => some .wordEnd
  | _ => none

/-- Reads an escape; the cursor is at its backslash. -/
def readEscape (c : Cursor) : Except ReadError (Primitive × Cursor) := do
  let start := c.place
  let c := c.next
  match c.char? with
  | none => fail .escapeUnexpectedEnd (c.since start)
  | some a =>
    let behind := c.next
    let span := behind.since start
    if a.isDigit then fail .unsupportedBackreference span
    else if a = 'x' || a = 'u' || a = 'U' then c.readHex start a
    else if a = 'p' || a = 'P' then c.readProperty start a
    else if let some (name, positive) := classOf? a then
      return (.named ⟨span, !positive, name⟩, behind)
    else if isEscapable a then return (.literal ⟨span, a, false⟩, behind)
    else if let some control := controlOf? a then
      return (.literal ⟨span, control, false⟩, behind)
    else if let some assertion := assertionOf? a then
      if a = 'b' && behind.char? = some '\x7b' then
        match ← behind.readWordBoundary start with
        | some (special, beyond) => return (.assertion (beyond.since start) special, beyond)
        | none => return (.assertion span assertion, behind)
      else return (.assertion span assertion, behind)
    else fail .escapeUnrecognized span

end Cursor

end RenderRelay.Pattern
