import RenderRelay.Pattern.CharSet
import RenderRelay.Pattern.ExprReader
import RenderRelay.Pattern.Weight

/-!
What written patterns mean, given the modes they are read in. Modes hold from where they are set to
the end of the group. Patterns are for texts: where they are taken as patterns for bytes they must
not match a byte that no character of ASCII has.
-/

namespace RenderRelay.Pattern

/-- The modes in force. -/
structure Modes where
  caseless : Bool
  multiLine : Bool
  dotMatchesAll : Bool
  /-- Whether characters are taken as such, and not as bytes. -/
  characters : Bool
  /-- Whether a carriage return ends a line too. -/
  carriageReturns : Bool

namespace Modes

def standard : Modes := ⟨false, false, false, true, false⟩

def after (m : Modes) (items : List ModeItem) : Modes where
  caseless := (ModeItem.find? .caseless items).getD m.caseless
  multiLine := (ModeItem.find? .multiLine items).getD m.multiLine
  dotMatchesAll := (ModeItem.find? .dotMatchesAll items).getD m.dotMatchesAll
  characters := (ModeItem.find? .characters items).getD m.characters
  carriageReturns := (ModeItem.find? .carriageReturns items).getD m.carriageReturns

/-! ### Sets -/

/-- Whether case is left out of account between all characters, which takes a table of them. -/
def needsCaseTable (m : Modes) : Bool := m.caseless && m.characters

/-- The set that is written at a span, without respect to case if the modes say so. Whether there is
anything in it to compare is known from how it is written. -/
def cased (m : Modes) (span : Span) (isBare : Bool) (s : CharSet) : Except ReadError CharSet :=
  if m.needsCaseTable && !isBare then fail .caseTableMissing span
  else .ok (if m.caseless then s.asciiCaseless else s)

/-- The set or, if so asked, all other characters. -/
def oriented (m : Modes) (span : Span) (negated : Bool) (s : CharSet) : Except ReadError CharSet :=
  let s := if negated then s.compl else s
  if m.characters then .ok s
  else if s.isAsciiBytes then .ok s.asciiPart
  else fail .bytesBeyondText span

/-- Whether a literal stands for a byte that no character of ASCII has. -/
def isHighByte (m : Modes) (l : Literal) : Bool := !m.characters && l.asByte && 0x80 ≤ l.char.toNat

def literalChar (m : Modes) (l : Literal) : Except ReadError Char :=
  if m.isHighByte l then fail .bytesBeyondText l.span
  else if !m.characters && 0x80 ≤ l.char.toNat then fail .charactersNotAllowed l.span
  else .ok l.char

def named (m : Modes) (n : NamedClass) : Except ReadError CharSet :=
  if m.characters then fail n.name.lack n.span
  else
    match n.name.bytes? with
    | none => fail .charactersNotAllowed n.span
    | some s => m.oriented n.span n.negated s

mutual

def set (m : Modes) : ClassSet → Except ReadError CharSet
  | .empty _ => .ok fun _ => false
  | .literal l => do return .single (← m.literalChar l)
  | .range _ first last => do return .between (← m.literalChar first) (← m.literalChar last)
  | .ascii span negated name => do m.oriented span negated (← m.cased span false name.chars)
  | .named n => m.named n
  | .bracketed span negated s => do
    m.oriented span negated (← m.cased span s.isBare (← m.set s))
  | .union _ items => m.unionOf items
  | .operation _ operator left right => do
    let s ← m.set left
    let t ← m.set right
    let t ← m.cased right.span right.isBare t
    let s ← m.cased left.span left.isBare s
    return match operator with
      | .intersection => s.inter t
      | .difference => s.diff t
      | .symmetricDifference => s.symmDiff t

def unionOf (m : Modes) : List ClassSet → Except ReadError CharSet
  | [] => .ok fun _ => false
  | s :: rest => do return (← m.set s).union (← m.unionOf rest)

end

/-! ### Assertions -/

def startsLine (m : Modes) : Edge := fun before behind =>
  match before with
  | none => true
  | some '\n' => true
  | some '\r' => m.carriageReturns && behind ≠ some '\n'
  | _ => false

def endsLine (m : Modes) : Edge := fun before behind =>
  match behind with
  | none => true
  | some '\n' => !(m.carriageReturns && before = some '\r')
  | some '\r' => m.carriageReturns
  | _ => false

/-- Whether the character of a place, if there is one, belongs to words of ASCII. -/
def isWord (c : Option Char) : Bool := c.any (AsciiClass.chars .word)

def edge (m : Modes) : Assertion → Edge
  | .startLine => if m.multiLine then m.startsLine else fun before _ => before.isNone
  | .endLine => if m.multiLine then m.endsLine else fun _ behind => behind.isNone
  | .startText => fun before _ => before.isNone
  | .endText => fun _ behind => behind.isNone
  | .wordBoundary => fun before behind => isWord before != isWord behind
  | .notWordBoundary => fun before behind => isWord before == isWord behind
  | .wordStart => fun before behind => !isWord before && isWord behind
  | .wordEnd => fun before behind => isWord before && !isWord behind
  | .wordStartHalf => fun before _ => !isWord before
  | .wordEndHalf => fun _ behind => !isWord behind

/-- The pattern of an assertion. Words of all characters cannot be told. -/
def assertion (m : Modes) (a : Assertion) : Pattern :=
  if m.characters && a.isOfWords then .unknown else .edge (m.edge a)

/-! ### Patterns -/

def literal (m : Modes) (l : Literal) : Except ReadError Pattern :=
  if m.isHighByte l then fail .bytesBeyondText l.span
  else do return .char (← m.cased l.span false (.single l.char))

/-- The pattern of the dot: any character, or any that ends no line. -/
def dot (m : Modes) (span : Span) : Except ReadError Pattern :=
  if !m.characters then fail .bytesBeyondText span
  else
    .ok <| .char fun c =>
      m.dotMatchesAll || (c ≠ '\n' && !(m.carriageReturns && c = '\r'))

mutual

/-- The pattern of an expression, and the modes behind it. -/
def pattern (m : Modes) : Expr → Except ReadError (Pattern × Modes)
  | .empty _ => .ok (.empty, m)
  | .modes _ items => .ok (.empty, m.after items)
  | .literal l => do return (← m.literal l, m)
  | .dot span => do return (← m.dot span, m)
  | .assertion _ a => .ok (m.assertion a, m)
  | .named n => do return (.char (← m.named n), m)
  | .bracketed span negated s => do
    let s ← m.cased span s.isBare (← m.set s)
    return (.char (← m.oriented span negated s), m)
  | .repetition _ least most body => do
    let (body, m) ← m.pattern body
    return (if most = some 0 then .empty else .repeated least most body, m)
  | .group _ items body => do
    let (body, _) ← (m.after items).pattern body
    return (body, m)
  | .alternation _ branches => m.anyOf branches
  | .sequence _ parts => m.allOf parts

def anyOf (m : Modes) : List Expr → Except ReadError (Pattern × Modes)
  | [] => .ok (.never, m)
  | e :: rest => do
    let (first, m) ← m.pattern e
    let (others, m) ← m.anyOf rest
    return (.either first others, m)

def allOf (m : Modes) : List Expr → Except ReadError (Pattern × Modes)
  | [] => .ok (.empty, m)
  | e :: rest => do
    let (first, m) ← m.pattern e
    let (others, m) ← m.allOf rest
    return (.seq first others, m)

end

end Modes

/-- Reads a pattern; one that cannot be read, is too heavy or has unknown parts comes with a
notice. -/
def read (text : String) : Except String Pattern :=
  let written : Except ReadError (Expr × Pattern) := do
    let e ← readExpr text
    return (e, (← Modes.standard.pattern e).1)
  match written with
  | .error e => .error (e.notice text)
  | .ok (e, p) =>
    if weightLimit < e.weight then
      .error s!"Compiled regex exceeds size limit of {weightLimit} bytes."
    else if p.isKnown then .ok p
    else .error "error building NFA"

end RenderRelay.Pattern
