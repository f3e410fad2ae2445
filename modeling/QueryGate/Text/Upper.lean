import QueryGate.Text.UpperTable

/-!
# Upper-casing

Full upper-casing: a character can become several, as the sharp s becomes `SS` and a ligature its
letters. Keyword tables hold upper-case words, so a word is looked up by its upper-case form.

## Main definitions

* `upper` — the upper-case form of one character
* `upperText` — the upper-case form of a text, character by character
-/

namespace QueryGate.Text

/-- The upper-case form of a character above U+007F. -/
def upperBeyondAscii (c : Char) : List Char :=
  match upperExpansions.lookup c.toNat with
  | some expansion => expansion.map Char.ofNat
  | none => [Char.ofNat (CaseRun.mapFirst upperRuns c.toNat)]

/-- The upper-case form of a character; a character without one stands for itself. -/
def upper (c : Char) : List Char :=
  if c.toNat < 0x80 then [c.toUpper] else upperBeyondAscii c

/-- The upper-case form of a text. -/
def upperText (text : List Char) : List Char :=
  text.flatMap upper

end QueryGate.Text
