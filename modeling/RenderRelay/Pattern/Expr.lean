import RenderRelay.Pattern.ReadError

/-!
Patterns as they are written: expressions with the spans they take in the text. How deep they may
stand inside each other is limited; an expression that goes deeper is refused at the first part, in
reading order, that does.
-/

namespace RenderRelay.Pattern

/-! ### Parts of expressions -/

/-- A mode of reading. -/
inductive Mode where
  | caseless
  | multiLine
  | dotMatchesAll
  | swapGreed
  | characters
  | carriageReturns
  | spaced
  deriving DecidableEq

/-- An item of a list of modes: a mode, or the sign that those behind it are switched off. -/
structure ModeItem where
  span : Span
  mode : Option Mode

/-- What a list of modes says of a mode, if it does. -/
def ModeItem.find? (mode : Mode) (items : List ModeItem) : Option Bool :=
  go true items
where
  go (on : Bool) : List ModeItem → Option Bool
    | [] => none
    | item :: rest =>
      match item.mode with
      | none => go false rest
      | some m => if m = mode then some on else go on rest

/-- A character that stands for itself. One written as a byte may stand for the byte. -/
structure Literal where
  span : Span
  char : Char
  asByte : Bool

/-- What an assertion asks of a place. -/
inductive Assertion where
  | startLine
  | endLine
  | startText
  | endText
  | wordBoundary
  | notWordBoundary
  | wordStart
  | wordEnd
  | wordStartHalf
  | wordEndHalf
  deriving DecidableEq

def Assertion.isOfWords : Assertion → Bool
  | startLine => false
  | endLine => false
  | startText => false
  | endText => false
  | _ => true

/-- The name of a set of characters. -/
inductive ClassName where
  | digits
  | blanks
  | wordChars
  | property (name : String)
  | propertyValue (property value : String)

/-- A set of characters with a name, or all others. -/
structure NamedClass where
  span : Span
  negated : Bool
  name : ClassName

/-- A set of characters of ASCII with a name. -/
inductive AsciiClass where
  | alnum
  | alpha
  | ascii
  | blank
  | cntrl
  | digit
  | graph
  | lower
  | print
  | punct
  | space
  | upper
  | word
  | xdigit
  deriving DecidableEq

def AsciiClass.ofName? (name : List Char) : Option AsciiClass :=
  match String.ofList name with
  | "alnum" => some alnum
  | "alpha" => some alpha
  | "ascii" => some ascii
  | "blank" => some blank
  | "cntrl" => some cntrl
  | "digit" => some digit
  | "graph" => some graph
  | "lower" => some lower
  | "print" => some print
  | "punct" => some punct
  | "space" => some space
  | "upper" => some upper
  | "word" => some word
  | "xdigit" => some xdigit
  | _ => none

/-- How two sets make one. -/
inductive SetOperator where
  | intersection
  | difference
  | symmetricDifference
  deriving DecidableEq

/-- A set of characters as it is written between brackets. -/
inductive ClassSet where
  | empty (span : Span)
  | literal (literal : Literal)
  | range (span : Span) (first last : Literal)
  | ascii (span : Span) (negated : Bool) (name : AsciiClass)
  | named (name : NamedClass)
  | bracketed (span : Span) (negated : Bool) (set : ClassSet)
  | union (span : Span) (items : List ClassSet)
  | operation (span : Span) (operator : SetOperator) (left right : ClassSet)

def ClassSet.span : ClassSet → Span
  | empty span => span
  | literal l => l.span
  | range span .. => span
  | ascii span .. => span
  | named n => n.span
  | bracketed span .. => span
  | union span _ => span
  | operation span .. => span

mutual

/-- Whether no character stands in the set itself, outside of the sets within it. -/
def ClassSet.isBare : ClassSet → Bool
  | .literal _ => false
  | .range .. => false
  | .ascii .. => false
  | .named _ => false
  | .union _ items => ClassSet.areBare items
  | _ => true

def ClassSet.areBare : List ClassSet → Bool
  | [] => true
  | set :: rest => set.isBare && ClassSet.areBare rest

end

/-! ### Expressions -/

/-- A pattern as it is written. -/
inductive Expr where
  | empty (span : Span)
  | modes (span : Span) (items : List ModeItem)
  | literal (literal : Literal)
  | dot (span : Span)
  | assertion (span : Span) (assertion : Assertion)
  | named (name : NamedClass)
  | bracketed (span : Span) (negated : Bool) (set : ClassSet)
  | repetition (span : Span) (least : Nat) (most : Option Nat) (body : Expr)
  | group (span : Span) (items : List ModeItem) (body : Expr)
  | alternation (span : Span) (branches : List Expr)
  | sequence (span : Span) (parts : List Expr)

namespace Expr

def span : Expr → Span
  | empty span => span
  | modes span _ => span
  | literal l => l.span
  | dot span => span
  | assertion span _ => span
  | named n => n.span
  | bracketed span .. => span
  | repetition span .. => span
  | group span .. => span
  | alternation span _ => span
  | sequence span _ => span

def isRepeatable : Expr → Bool
  | empty _ => false
  | modes .. => false
  | _ => true

end Expr

/-! ### Nesting -/

def deeper (span : Span) (depth : Nat) : Except ReadError Nat :=
  if depth < nestLimit then .ok (depth + 1) else .error ⟨.nestLimitExceeded, span, none⟩

mutual

def ClassSet.checkDepth (depth : Nat) : ClassSet → Except ReadError Unit
  | .bracketed span _ set => do set.checkDepth (← deeper span depth)
  | .union span items => do ClassSet.checkDepths (← deeper span depth) items
  | .operation span _ left right => do
    let depth ← deeper span depth
    left.checkDepth depth
    right.checkDepth depth
  | _ => .ok ()

def ClassSet.checkDepths (depth : Nat) : List ClassSet → Except ReadError Unit
  | [] => .ok ()
  | set :: rest => do
    set.checkDepth depth
    ClassSet.checkDepths depth rest

end

mutual

def Expr.checkDepth (depth : Nat) : Expr → Except ReadError Unit
  | .bracketed span _ set => do set.checkDepth (← deeper span depth)
  | .repetition span _ _ body => do body.checkDepth (← deeper span depth)
  | .group span _ body => do body.checkDepth (← deeper span depth)
  | .alternation span branches => do Expr.checkDepths (← deeper span depth) branches
  | .sequence span parts => do Expr.checkDepths (← deeper span depth) parts
  | _ => .ok ()

def Expr.checkDepths (depth : Nat) : List Expr → Except ReadError Unit
  | [] => .ok ()
  | e :: rest => do
    e.checkDepth depth
    Expr.checkDepths depth rest

end

end RenderRelay.Pattern
