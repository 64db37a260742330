/-!
Places in the text of a pattern. Lines and columns are counted from one.
-/

namespace RenderRelay.Pattern

/-- A place in a text; `offset` is the number of characters before it. -/
structure Place where
  offset : Nat
  line : Nat
  column : Nat
  deriving DecidableEq

namespace Place

def first : Place := ⟨0, 1, 1⟩

def after (p : Place) (c : Char) : Place :=
  if c = '\n' then ⟨p.offset + 1, p.line + 1, 1⟩ else ⟨p.offset + 1, p.line, p.column + 1⟩

end Place

/-- A part of a text, from one place to another. -/
structure Span where
  start : Place
  stop : Place
  deriving DecidableEq

namespace Span

/-- Whether the span begins and ends on one line. -/
def isOneLine (s : Span) : Bool := s.start.line = s.stop.line

def comesBefore (s t : Span) : Bool :=
  s.start.offset < t.start.offset ||
    (s.start.offset = t.start.offset && s.stop.offset ≤ t.stop.offset)

end Span

end RenderRelay.Pattern
