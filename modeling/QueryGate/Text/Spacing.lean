import QueryGate.Text.Space

/-!
# Spacing

Texts are compared in a normal form: every run of white space is one space, and none stands at
either end. One semicolon at the end of a statement is tolerated and taken off.

## Main definitions

* `collapse` — every run of white space becomes one space
* `trimEnd`, `trim` — white space taken off at the end, or at both ends
* `normalize` — collapsed and trimmed
* `dropSemicolon` — without one final semicolon
* `hasSeparator` — some semicolon has more than white space after it
-/

namespace QueryGate.Text

/-- Whether a text begins with white space. -/
def startsWithSpace : List Char → Bool
  | [] => false
  | c :: _ => isSpace c

/-- The text with every run of white space written as one space; the last character of a run
leaves the space. -/
def collapse : List Char → List Char
  | [] => []
  | c :: rest =>
    if isSpace c then
      if startsWithSpace rest then collapse rest else ' ' :: collapse rest
    else c :: collapse rest

/-- The text without the white space at its end. -/
def trimEnd (text : List Char) : List Char :=
  (text.reverse.dropWhile isSpace).reverse

/-- The text without the white space at its ends. -/
def trim (text : List Char) : List Char :=
  trimEnd (text.dropWhile isSpace)

/-- The normal form of a text: single spaces between its parts and none at its ends. -/
def normalize (text : List Char) : List Char :=
  trim (collapse text)

/-- A trimmed text without one final semicolon and the white space before it. -/
def dropSemicolon (text : List Char) : List Char :=
  if text.getLast? = some ';' then trimEnd text.dropLast else text

/-- Whether some semicolon is followed, at any distance, by a character other than white space. -/
def hasSeparator (text : List Char) : Bool :=
  (text.dropWhile (· != ';')).drop 1 |>.any fun c => !isSpace c

end QueryGate.Text
