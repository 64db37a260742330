import RenderRelay.LogRecord
import RenderRelay.Pattern.Meaning

/-!
Log filters. A filter is a list of directives, each a limit for the targets that begin with some
text or for all targets; a record obeys the directive that fits its target most closely. Written,
the directives are separated by commas, and a pattern that messages must match may follow a slash.
-/

namespace RenderRelay

/-- The place of a level among the others, the gravest first. -/
def Level.rank : Level → Nat
  | error => 1
  | warn => 2
  | info => 3
  | debug => 4
  | trace => 5

namespace Logging

/-- The least grave level that passes; none where nothing passes. -/
abbrev Limit := Option Level

def Limit.rank (limit : Limit) : Nat := limit.elim 0 Level.rank

def Limit.passes (limit : Limit) (level : Level) : Bool := level.rank ≤ limit.rank

def Limit.max (a b : Limit) : Limit := if a.rank < b.rank then b else a

def Limit.name (limit : Limit) : String := limit.elim "OFF" Level.name

def Limit.values : List Limit :=
  [none, some .error, some .warn, some .info, some .debug, some .trace]

/-- The limit of a name, in capitals or not. -/
def Limit.ofName? (name : String) : Option Limit :=
  Limit.values.find? fun limit => limit.name = name.map Char.toUpper

/-- A limit and the targets it is for: those that begin with `target`, or all. -/
structure Directive where
  target : Option String
  limit : Limit
  deriving DecidableEq

namespace Directive

def covers (d : Directive) (target : String) : Bool :=
  match d.target with
  | none => true
  | some start => start.isPrefixOf target

/-- How closely the directive fits the targets it is for. -/
def closeness (d : Directive) : Nat := d.target.elim 0 String.utf8ByteSize

end Directive

/-- A filter: its directives, and the pattern that must occur in messages. -/
structure Filter where
  directives : List Directive
  pattern : Option Pattern

namespace Filter

/-- Puts a directive in the place of the one for the same target, or behind all others. -/
def put (d : Directive) : List Directive → List Directive
  | [] => [d]
  | e :: rest => if e.target = d.target then d :: rest else e :: put d rest

/-- The closer of two directives, the later one if they are equally close. -/
def closer (best : Option Directive) (d : Directive) : Option Directive :=
  match best with
  | none => some d
  | some e => if e.closeness ≤ d.closeness then some d else some e

def directiveFor (f : Filter) (target : String) : Option Directive :=
  (f.directives.filter (·.covers target)).foldl closer none

def passes (f : Filter) (level : Level) (target message : String) : Bool :=
  ((f.directiveFor target).any fun d => d.limit.passes level) &&
    f.pattern.all (·.occursIn message)

def maxLimit (f : Filter) : Limit := f.directives.foldl (fun limit d => limit.max d.limit) none

/-! ### Reading -/

def trimBlanks (text : String) : String :=
  let cut (cs : List Char) := cs.dropWhile Unicode.isBlank
  .ofList (cut (cut text.toList).reverse).reverse

/-- A part of a filter that cannot be read: the text to complain about. -/
abbrev Complaint := String

/-- Reads one part. A lone name of a limit is for all targets; a lone target lets all pass. -/
def readDirective (part : String) : Except Complaint Directive :=
  match part.splitOn "=" with
  | [word] =>
    match Limit.ofName? word with
    | some limit => .ok ⟨none, limit⟩
    | none => .ok ⟨some word, some .trace⟩
  | [target, word] =>
    let word := trimBlanks word
    if word = "" then .ok ⟨some target, some .trace⟩
    else
      match Limit.ofName? word with
      | some limit => .ok ⟨some target, limit⟩
      | none => .error s!"invalid logging spec '{word}'"
  | _ => .error s!"invalid logging spec '{part}'"

/-- Reads the parts in order, leaving out those that cannot be read. -/
def readParts : List String → List Directive × List Complaint
  | [] => ([], [])
  | part :: rest =>
    let (directives, complaints) := readParts rest
    let part := trimBlanks part
    if part = "" then (directives, complaints)
    else
      match readDirective part with
      | .ok d => (d :: directives, complaints)
      | .error complaint => (directives, complaint :: complaints)

/-- The directives as they take effect: a later one replaces an earlier one for the same target, and
without any only errors pass. -/
def settle (directives : List Directive) : List Directive :=
  match directives.foldl (fun ds d => put d ds) [] with
  | [] => [⟨none, some .error⟩]
  | ds => ds

/-- Reads the pattern behind the slash; one that cannot be read counts for nothing. -/
def readPattern (text : String) : Option Pattern × List Complaint :=
  match Pattern.read text with
  | .ok pattern => (some pattern, [])
  | .error notice => (none, [s!"invalid regex filter - {notice}"])

def read (text : String) : Filter × List Complaint :=
  match text.splitOn "/" with
  | [parts] =>
    let (directives, complaints) := readParts (parts.splitOn ",")
    (⟨settle directives, none⟩, complaints)
  | [parts, written] =>
    let (directives, complaints) := readParts (parts.splitOn ",")
    let (pattern, objections) := readPattern written
    (⟨settle directives, pattern⟩, complaints ++ objections)
  | _ => (⟨settle [], none⟩, [s!"invalid logging spec '{text}' (too many '/'s)"])

def ofLimit (limit : Limit) : Filter := ⟨[⟨none, limit⟩], none⟩

end Filter

end Logging

end RenderRelay
