import QueryGate.CommandLine.Outcome
import QueryGate.Text.Spacing

/-!
# The table of patterns

Patterns are listed in a table, each with its number. A pattern is shown as it is written, tags
included, and takes as many rows as it has lines; the space around a cell does not show.

## Main definitions

* `cellLines` — the lines that a text takes in a cell
* `patternRows` — the rows that a pattern takes
* `tableRows` — the rows of the table
-/

namespace QueryGate.CommandLine

/-- The distance between two tabulator stops. -/
def tabWidth : Nat := 8

/-- A line with its tabulators written as spaces up to the next stop; `column` is where it begins. -/
def expandTabs (column : Nat) : List Char → List Char
  | [] => []
  | '\t' :: rest =>
    let width := tabWidth - column % tabWidth
    List.replicate width ' ' ++ expandTabs (column + width) rest
  | c :: rest => c :: expandTabs (column + 1) rest

/-- The lines that a text takes in a cell of a table, without the space around them. -/
def cellLines (t : Terminal) (text : List Char) : List (List Char) :=
  let shown := (t.shown? (t.escape text)).getD text
  (shown.splitOn '\n').map fun line => Text.trim (expandTabs 0 line)

/-- The rows of a table that a pattern takes. Its number stands in the first of them. -/
def patternRows (t : Terminal) (number : Nat) (pattern : List Char) :
    List (List Char × List Char) :=
  (cellLines t pattern).zipIdx.map fun (line, i) =>
    (if i = 0 then Nat.toDigits 10 number else [], line)

/-- The rows of the table of some patterns, which are numbered from one. -/
def tableRows (t : Terminal) (patterns : List (List Char)) : List (List Char × List Char) :=
  patterns.zipIdx.flatMap fun (text, i) => patternRows t (i + 1) text

end QueryGate.CommandLine
