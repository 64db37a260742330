import RenderRelay.Pattern.Place
import RenderRelay.Text.Lines

/-!
Why a text is no pattern, and the notice that shows where.
-/

namespace RenderRelay.Pattern

/-- How many groups and sets may stand inside each other. -/
def nestLimit : Nat := 250

/-- What is wrong with a part of a text. -/
inductive Flaw where
  | classEscapeInvalid
  | classRangeInvalid
  | classRangeLiteral
  | classUnclosed
  | decimalInvalid
  | escapeHexEmpty
  | escapeHexInvalid
  | escapeHexInvalidDigit
  | escapeUnexpectedEnd
  | escapeUnrecognized
  | modeDanglingNegation
  | modeDuplicate
  | modeRepeatedNegation
  | modeUnexpectedEnd
  | modeUnrecognized
  | groupNameDuplicate
  | groupNameEmpty
  | groupNameInvalid
  | groupNameUnexpectedEnd
  | groupUnclosed
  | groupUnopened
  | nestLimitExceeded
  | repetitionCountInvalid
  | repetitionCountDecimalEmpty
  | repetitionCountUnclosed
  | repetitionMissing
  | wordBoundaryUnclosed
  | wordBoundaryUnrecognized
  | wordBoundaryOrRepetitionUnexpectedEnd
  | propertyNameInvalid
  | unsupportedBackreference
  | unsupportedLookAround
  | charactersNotAllowed
  | bytesBeyondText
  | propertyNotFound
  | propertyValueNotFound
  | classTableMissing
  | caseTableMissing
  deriving DecidableEq

def Flaw.message : Flaw → String
  | classEscapeInvalid => "invalid escape sequence found in character class"
  | classRangeInvalid => "invalid character class range, the start must be <= the end"
  | classRangeLiteral => "invalid range boundary, must be a literal"
  | classUnclosed => "unclosed character class"
  | decimalInvalid => "decimal literal invalid"
  | escapeHexEmpty => "hexadecimal literal empty"
  | escapeHexInvalid => "hexadecimal literal is not a Unicode scalar value"
  | escapeHexInvalidDigit => "invalid hexadecimal digit"
  | escapeUnexpectedEnd => "incomplete escape sequence, reached end of pattern prematurely"
  | escapeUnrecognized => "unrecognized escape sequence"
  | modeDanglingNegation => "dangling flag negation operator"
  | modeDuplicate => "duplicate flag"
  | modeRepeatedNegation => "flag negation operator repeated"
  | modeUnexpectedEnd => "expected flag but got end of regex"
  | modeUnrecognized => "unrecognized flag"
  | groupNameDuplicate => "duplicate capture group name"
  | groupNameEmpty => "empty capture group name"
  | groupNameInvalid => "invalid capture group character"
  | groupNameUnexpectedEnd => "unclosed capture group name"
  | groupUnclosed => "unclosed group"
  | groupUnopened => "unopened group"
  | nestLimitExceeded =>
    s!"exceed the maximum number of nested parentheses/brackets ({nestLimit})"
  | repetitionCountInvalid => "invalid repetition count range, the start must be <= the end"
  | repetitionCountDecimalEmpty => "repetition quantifier expects a valid decimal"
  | repetitionCountUnclosed => "unclosed counted repetition"
  | repetitionMissing => "repetition operator missing expression"
  | wordBoundaryUnclosed =>
    "special word boundary assertion is either unclosed or contains an invalid character"
  | wordBoundaryUnrecognized =>
    "unrecognized special word boundary assertion, valid choices are: start, end, start-half " ++
      "or end-half"
  | wordBoundaryOrRepetitionUnexpectedEnd =>
    "found either the beginning of a special word boundary or a bounded repetition on a \\b " ++
      "with an opening brace, but no closing brace"
  | propertyNameInvalid => "invalid Unicode character class"
  | unsupportedBackreference => "backreferences are not supported"
  | unsupportedLookAround => "look-around, including look-ahead and look-behind, is not supported"
  | charactersNotAllowed => "Unicode not allowed here"
  | bytesBeyondText => "pattern can match invalid UTF-8"
  | propertyNotFound => "Unicode property not found"
  | propertyValueNotFound => "Unicode property value not found"
  | classTableMissing =>
    "Unicode-aware Perl class not found (make sure the unicode-perl feature is enabled)"
  | caseTableMissing =>
    "Unicode-aware case insensitivity matching is not available " ++
      "(make sure the unicode-case feature is enabled)"

/-- A flaw and where it is; `other` is the part that it clashes with. -/
structure ReadError where
  flaw : Flaw
  span : Span
  other : Option Span
  deriving DecidableEq

namespace ReadError

def spans (e : ReadError) : List Span :=
  match e.other with
  | none => [e.span]
  | some other => if other.comesBefore e.span then [other, e.span] else [e.span, other]

def copies (n : Nat) (c : Char) : String := .ofList (List.replicate n c)

/-- Marks under spans of one line, behind marks up to the given column. -/
def marks (column : Nat) : List Span → String
  | [] => ""
  | span :: rest =>
    let start := max column span.start.column
    let width := max 1 (span.stop.column - span.start.column)
    copies (start - column) ' ' ++ copies width '^' ++ marks (start + width) rest

/-- The lines of a pattern from the given number on, each with the marks under it. Lines are
numbered where `width` says how wide the numbers are. -/
def marked (spans : List Span) (width number : Nat) : List String → String
  | [] => ""
  | line :: rest =>
    let digits := toString number
    let margin :=
      if width = 0 then copies 4 ' ' else copies (width - digits.length) ' ' ++ digits ++ ": "
    let here := spans.filter fun s => s.start.line = number
    let below :=
      if here.isEmpty then ""
      else copies (if width = 0 then 4 else width + 2) ' ' ++ marks 1 here ++ "\n"
    margin ++ line ++ "\n" ++ below ++ marked spans width (number + 1) rest

def notice (e : ReadError) (pattern : String) : String :=
  let lines := Text.lines pattern
  let count := lines.length + if pattern.endsWith "\n" then 1 else 0
  let width := if count ≤ 1 then 0 else (toString count).length
  let body := marked (e.spans.filter Span.isOneLine) width 1 lines
  let title := "regex parse error:\n"
  if pattern.contains '\n' then
    let divider := copies 79 '~' ++ "\n"
    let long := e.spans.filter fun s => !s.isOneLine
    let notes := long.map fun s =>
      s!"on line {s.start.line} (column {s.start.column}) through line {s.stop.line} "
        ++ s!"(column {s.stop.column - 1})"
    let remark := if long.isEmpty then "" else "\n".intercalate notes ++ "\n"
    title ++ divider ++ body ++ divider ++ remark ++ s!"error: {e.flaw.message}"
  else title ++ body ++ s!"error: {e.flaw.message}"

end ReadError

end RenderRelay.Pattern
