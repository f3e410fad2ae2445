import QueryGate.Text.LowerTable

/-!
# Case variants

Two characters are case variants when a match that ignores case takes one for the other: their
small letters agree, or belong to one family of small letters with a common capital. So the long s
is a variant of `S`, and the Kelvin sign of `k`.

## Main definitions

* `smallLetter` — the one-character lower-case form
* `lowerText` — the lower-case form of a text
* `smallLetterFamily` — the small letters of which the variants of a character are forms
* `sameLetter` — whether two characters are variants
* `caseVariants` — all variants of a character
-/

namespace QueryGate.Text

/-- The one-character lower-case form; a character without one stands for itself. -/
def smallLetter (c : Char) : Char :=
  if c.toNat < 0x80 then c.toLower else Char.ofNat (CaseRun.mapFirst lowerRuns c.toNat)

/-- The lower-case form of a character. The dotted capital I alone has two characters: a small `i`
and its dot. -/
def lower (c : Char) : List Char :=
  if c == '\u0130' then ['i', '\u0307'] else [smallLetter c]

/-- The lower-case form of a text, character by character. -/
def lowerText (text : List Char) : List Char :=
  text.flatMap lower

/-- The small letters that share a capital with a character, as code points. -/
def smallLetterFamily (c : Char) : List Nat :=
  let small := (smallLetter c).toNat
  (smallLetterFamilies.find? fun family => family.contains small).getD [small]

/-- Whether two characters differ at most in case. -/
def sameLetter (a b : Char) : Bool :=
  a == b || (smallLetterFamily a).contains (smallLetter b).toNat

/-- The characters whose small letter is the one given by its code point. -/
def formsOfSmallLetter (small : Nat) : List Char :=
  let self := Char.ofNat small
  let ascii := if self.toUpper != self then [self.toUpper] else []
  self :: ascii ++ (CaseRun.origins lowerRuns small).map Char.ofNat

/-- All case variants of a character, itself included. -/
def caseVariants (c : Char) : List Char :=
  (smallLetterFamily c).flatMap formsOfSmallLetter

end QueryGate.Text
