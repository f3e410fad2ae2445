/-!
# Decoding UTF-8

A byte sequence is read as a sequence of units: each is either a character or a stretch of bytes
that cannot be part of any. Such a stretch is as long as it can be while still beginning like a
character, and never empty. Decoding succeeds when every unit is a character; the lenient form puts
U+FFFD in the place of each other unit.

## Main definitions

* `Utf8.nextUnit` — the first unit of a byte sequence, after its first byte
* `Utf8.units` — all units
* `Utf8.decode?` — the text, if all units are characters
* `Utf8.decodeLenient` — the text with U+FFFD for what is not a character
-/

namespace QueryGate.Text.Utf8

/-- What the first byte of a multi-byte character says: how many bytes follow, the bits it
contributes, and the bounds of the byte after it. The bounds rule out overlong forms, surrogates
and numbers above U+10FFFF. -/
structure Lead where
  following : Nat
  bits : Nat
  low : UInt8
  high : UInt8

/-- The meaning of a byte as the first of a multi-byte character. -/
def lead? (b : UInt8) : Option Lead :=
  let n := b.toNat
  if 0xC2 ≤ n ∧ n ≤ 0xDF then some ⟨1, n - 0xC0, 0x80, 0xBF⟩
  else if n = 0xE0 then some ⟨2, 0, 0xA0, 0xBF⟩
  else if n = 0xED then some ⟨2, 0xD, 0x80, 0x9F⟩
  else if 0xE1 ≤ n ∧ n ≤ 0xEF then some ⟨2, n - 0xE0, 0x80, 0xBF⟩
  else if n = 0xF0 then some ⟨3, 0, 0x90, 0xBF⟩
  else if 0xF1 ≤ n ∧ n ≤ 0xF3 then some ⟨3, n - 0xF0, 0x80, 0xBF⟩
  else if n = 0xF4 then some ⟨3, 4, 0x80, 0x8F⟩
  else none

/-- Reads `following` more bytes of a character whose bits so far are given; the next byte has to
lie within the bounds, those after it within the full range of continuation bytes. -/
def continueUnit : Nat → Nat → UInt8 → UInt8 → List UInt8 → Option Char × List UInt8
  | 0, bits, _, _, bytes => (some (Char.ofNat bits), bytes)
  | _ + 1, _, _, _, [] => (none, [])
  | following + 1, bits, low, high, b :: bytes =>
    if low ≤ b ∧ b ≤ high then
      continueUnit following (bits * 64 + (b.toNat - 0x80)) 0x80 0xBF bytes
    -- The byte that does not fit may begin a unit of its own.
    else (none, b :: bytes)

/-- The unit that begins with a given byte, and the bytes after it. -/
def nextUnit (b : UInt8) (bytes : List UInt8) : Option Char × List UInt8 :=
  if b < 0x80 then (some (Char.ofNat b.toNat), bytes)
  else
    match lead? b with
    | some lead => continueUnit lead.following lead.bits lead.low lead.high bytes
    | none => (none, bytes)

theorem length_continueUnit (following bits : Nat) (low high : UInt8) (bytes : List UInt8) :
    (continueUnit following bits low high bytes).2.length ≤ bytes.length := by
  fun_induction continueUnit following bits low high bytes <;> grind

theorem length_nextUnit (b : UInt8) (bytes : List UInt8) :
    (nextUnit b bytes).2.length ≤ bytes.length := by
  unfold nextUnit
  split
  · exact Nat.le_refl _
  · split
    · exact length_continueUnit ..
    · exact Nat.le_refl _

/-- The units of a byte sequence: characters, and `none` for each stretch that is not one. -/
def units : List UInt8 → List (Option Char)
  | [] => []
  | b :: bytes =>
    have := length_nextUnit b bytes
    (nextUnit b bytes).1 :: units (nextUnit b bytes).2
termination_by bytes => bytes.length
decreasing_by simp only [List.length_cons]; omega

/-- The characters of a list of units, if all of them are characters. -/
def characters? : List (Option Char) → Option (List Char)
  | [] => some []
  | none :: _ => none
  | some c :: rest => (characters? rest).map (c :: ·)

/-- The text of a byte sequence, if it is valid UTF-8. -/
def decode? (bytes : List UInt8) : Option (List Char) :=
  characters? (units bytes)

/-- The character that stands for bytes that are not one. -/
def replacement : Char := '\uFFFD'

/-- The text of a byte sequence, with one U+FFFD for each stretch that is not a character. -/
def decodeLenient (bytes : List UInt8) : List Char :=
  (units bytes).map (·.getD replacement)

end QueryGate.Text.Utf8
