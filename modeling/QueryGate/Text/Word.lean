import QueryGate.Text.WordTable

/-!
# Word characters

A word character is a letter or numeral of any script, or the underscore. Everything that looks
for keywords in a text sees it as a sequence of maximal runs of such characters.
-/

namespace QueryGate.Text

/-- Whether a character can stand inside a word. -/
def isWordChar (c : Char) : Bool :=
  if c.toNat < 0x80 then c.isAlphanum || c == '_' else wordRanges.covers c.toNat

end QueryGate.Text
