/-!
# Ends of lines

A line of a file ends with a line feed, a carriage return, or both together. Text read from a file
has line feeds only.
-/

namespace QueryGate.Text

/-- A text with each end of line written as a line feed. -/
def unifyLineEnds : List Char → List Char
  | [] => []
  | '\r' :: '\n' :: rest => '\n' :: unifyLineEnds rest
  | c :: rest => (if c == '\r' then '\n' else c) :: unifyLineEnds rest

end QueryGate.Text
