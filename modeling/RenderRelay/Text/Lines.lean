/-!
The lines of a text.
-/

namespace RenderRelay.Text

/-- A line without the carriage return it may end in. -/
def withoutReturn (line : String) : String :=
  if line.endsWith "\r" then (line.dropEnd 1).toString else line

/-- The lines of a text. A line feed ends a line, also with a carriage return before it; nothing
behind the last one is no line. -/
def lines (text : String) : List String :=
  match (text.splitOn "\n").reverse with
  | [] => []
  | last :: ended => (ended.map withoutReturn).reverse ++ if last = "" then [] else [last]

end RenderRelay.Text
