import Mathlib.Data.List.Basic
import QueryGate.Text.Utf8

/-!
# What the decoding of UTF-8 computes

The standard library says which bytes encode a character. Decoding undoes this and nothing else: a
byte sequence decodes exactly if it is the encoding of a text, and to that text. Any other sequence
has stretches that belong to no character. Each of them goes as far as it begins like a character,
and this leaves one way only to read a byte sequence with U+FFFD in the place of the stretches.

## Main definitions

* `encode` — the bytes of a text
* `Continues` — some bytes are what the first byte of a character asks for
* `Begins` — some bytes begin the encoding of a character
* `Broken` — a stretch of bytes that is no character, as long as it can be
* `Decodes` — a text that byte sequences stand for, with U+FFFD for broken stretches

## Main results

* `utf8EncodeChar_eq_cons_iff` — the encodings by their first bytes
* `nextUnit_eq_some_iff` — a unit is a character if it is the encoding of one
* `broken_of_nextUnit` — any other unit is a broken stretch
* `decode?_eq_some_iff` — decoding is the inverse of encoding
* `decodes_iff` — lenient decoding is the only way to read a byte sequence
-/

namespace QueryGate.Text.Utf8

variable {c c' : Char} {b low high : UInt8} {bytes rest rest' tail stretch stretch' : List UInt8}
  {lead : Lead} {following bits n : Nat} {text : List Char}

/-! ### Encoding -/

/-- The bytes of a text. -/
def encode (text : List Char) : List UInt8 :=
  text.flatMap String.utf8EncodeChar

@[simp] theorem encode_nil : encode [] = [] := rfl

@[simp] theorem encode_cons (c : Char) (text : List Char) :
    encode (c :: text) = String.utf8EncodeChar c ++ encode text := rfl

/-- The bytes after the first one of a character: so many, the next one within the bounds and those
after it any continuation bytes. -/
def Continues : Nat → UInt8 → UInt8 → List UInt8 → Prop
  | 0, _, _, tail => tail = []
  | _ + 1, _, _, [] => False
  | following + 1, low, high, b :: tail =>
    (low ≤ b ∧ b ≤ high) ∧ Continues following 0x80 0xBF tail

/-- The bits of a character after some more of its bytes. -/
def bitsAfter (bits : Nat) (tail : List UInt8) : Nat :=
  tail.foldl (fun bits b => bits * 64 + (b.toNat - 0x80)) bits

theorem bitsAfter_cons (bits : Nat) (b : UInt8) (tail : List UInt8) :
    bitsAfter bits (b :: tail) = bitsAfter (bits * 64 + (b.toNat - 0x80)) tail := by
  rw [bitsAfter, List.foldl_cons, bitsAfter]

theorem Continues.length_eq (continues : Continues following low high tail) :
    tail.length = following := by
  induction following generalizing low high tail with
  | zero => exact List.length_eq_zero_iff.mpr continues
  | succ following ih =>
    cases tail with
    | nil => exact continues.elim
    | cons b tail => exact congrArg (· + 1) (ih continues.2)

theorem exists_continues (bounds : low ≤ high) : ∃ tail, Continues following low high tail := by
  induction following generalizing low high with
  | zero => exact ⟨[], rfl⟩
  | succ following ih =>
    obtain ⟨tail, continues⟩ := @ih 0x80 0xBF (by decide)
    exact ⟨low :: tail, ⟨UInt8.le_refl low, bounds⟩, continues⟩

theorem toNat_ofNat_of_isValidChar (valid : n.isValidChar) : (Char.ofNat n).toNat = n := by
  rw [Char.ofNat, dif_pos valid]
  rfl

/-- First bytes by their number of leading ones. The bounds rule out overlong forms, surrogates and
numbers beyond the last character. -/
theorem lead?_eq_some_iff :
    lead? b = some lead ↔
      (∃ k, 2 ≤ k ∧ k < 32 ∧ b.toNat = 0xC0 + k ∧ lead = ⟨1, k, 0x80, 0xBF⟩) ∨
      (∃ k < 16, b.toNat = 0xE0 + k ∧
        lead = ⟨2, k, if k = 0 then 0xA0 else 0x80, if k = 0xD then 0x9F else 0xBF⟩) ∨
      ∃ k < 5, b.toNat = 0xF0 + k ∧
        lead = ⟨3, k, if k = 0 then 0x90 else 0x80, if k = 4 then 0x8F else 0xBF⟩ := by
  rw [lead?]
  constructor
  · intro leads
    -- `0xE0`, `0xED`, `0xF0` and `0xF4` have bounds of their own, so each is a case by itself.
    split_ifs at leads <;> obtain rfl := Option.some.inj leads
    · exact .inl ⟨b.toNat - 0xC0, by grind⟩
    · exact .inr (.inl ⟨0, by grind⟩)
    · exact .inr (.inl ⟨0xD, by grind⟩)
    · exact .inr (.inl ⟨b.toNat - 0xE0, by grind⟩)
    · exact .inr (.inr ⟨0, by grind⟩)
    · exact .inr (.inr ⟨b.toNat - 0xF0, by grind⟩)
    · exact .inr (.inr ⟨4, by grind⟩)
  · rintro (⟨k, large, small, eq, rfl⟩ | ⟨k, small, eq, rfl⟩ | ⟨k, small, eq, rfl⟩) <;>
      rw [eq] <;> grind

theorem lead?_eq_none_of_ascii (ascii : b < 0x80) : lead? b = none := by
  have small : b.toNat < 0x80 := UInt8.lt_iff_toNat_lt.mp ascii
  rw [lead?]
  split_ifs <;> first | omega | rfl

theorem low_le_high_of_lead? (leads : lead? b = some lead) : lead.low ≤ lead.high := by
  rcases lead?_eq_some_iff.mp leads with ⟨k, -, -, -, rfl⟩ | ⟨k, -, -, rfl⟩ | ⟨k, -, -, rfl⟩ <;>
    grind

theorem utf8EncodeChar_of_ascii (ascii : b < 0x80) :
    String.utf8EncodeChar (Char.ofNat b.toNat) = [b] := by
  have small : b.toNat < 0x80 := UInt8.lt_iff_toNat_lt.mp ascii
  have valid : b.toNat.isValidChar := .inl (by omega)
  rw [String.utf8EncodeChar]
  simp only [Char.toNat_val, toNat_ofNat_of_isValidChar valid]
  rw [if_pos (by omega), UInt8.ofNat_toNat]

/-- What a leading byte and the bytes that it asks for say of the number that they stand for. The
bounds leave out numbers that need fewer bytes, surrogates, and numbers that are too large. -/
theorem bitsAfter_cases (leads : lead? b = some lead)
    (continues : Continues lead.following lead.low lead.high tail) {n : Nat}
    (number : bitsAfter lead.bits tail = n) :
    (∃ x, tail = [x] ∧ 0x80 ≤ n ∧ n < 0x800 ∧ b.toNat = 0xC0 + n / 64 ∧
      x.toNat = 0x80 + n % 64) ∨
    (∃ x y, tail = [x, y] ∧ 0x800 ≤ n ∧ n < 0x10000 ∧ (n < 0xD800 ∨ 0xDFFF < n) ∧
      b.toNat = 0xE0 + n / 4096 ∧ x.toNat = 0x80 + n / 64 % 64 ∧ y.toNat = 0x80 + n % 64) ∨
    ∃ x y z, tail = [x, y, z] ∧ 0x10000 ≤ n ∧ n < 0x110000 ∧ b.toNat = 0xF0 + n / 262144 ∧
      x.toNat = 0x80 + n / 4096 % 64 ∧ y.toNat = 0x80 + n / 64 % 64 ∧
      z.toNat = 0x80 + n % 64 := by
  rcases lead?_eq_some_iff.mp leads with ⟨k, large, small, eq, rfl⟩ | ⟨k, small, eq, rfl⟩ |
    ⟨k, small, eq, rfl⟩
  · obtain _ | ⟨x, _ | ⟨y, tail⟩⟩ := tail <;>
      simp only [Continues, reduceCtorEq, and_false, UInt8.le_iff_toNat_le, UInt8.reduceToNat,
        and_true] at continues
    simp only [bitsAfter, List.foldl] at number
    exact .inl ⟨x, rfl, by omega⟩
  · obtain _ | ⟨x, _ | ⟨y, _ | ⟨z, tail⟩⟩⟩ := tail <;>
      simp only [Continues, reduceCtorEq, and_false, UInt8.le_iff_toNat_le, UInt8.reduceToNat,
        and_true, apply_ite UInt8.toNat] at continues
    simp only [bitsAfter, List.foldl] at number
    -- The bounds of the second byte depend on the first one.
    split_ifs at continues <;> exact .inr (.inl ⟨x, y, rfl, by omega⟩)
  · obtain _ | ⟨x, _ | ⟨y, _ | ⟨z, _ | ⟨w, tail⟩⟩⟩⟩ := tail <;>
      simp only [Continues, reduceCtorEq, and_false, UInt8.le_iff_toNat_le, UInt8.reduceToNat,
        and_true, apply_ite UInt8.toNat] at continues
    simp only [bitsAfter, List.foldl] at number
    split_ifs at continues <;> exact .inr (.inr ⟨x, y, z, rfl, by omega⟩)

theorem utf8EncodeChar_of_continues (leads : lead? b = some lead)
    (continues : Continues lead.following lead.low lead.high tail) :
    String.utf8EncodeChar (Char.ofNat (bitsAfter lead.bits tail)) = b :: tail := by
  generalize number : bitsAfter lead.bits tail = n
  have cases := bitsAfter_cases leads continues number
  -- The bounds of the second byte leave out surrogates and numbers that are too large.
  have valid : n.isValidChar := by
    rcases cases with ⟨_, -, _⟩ | ⟨_, _, -, _, _, below | above, _⟩ | ⟨_, _, _, -, _⟩
    · exact .inl (by omega)
    · exact .inl below
    · exact .inr ⟨above, by omega⟩
    · exact .inr (by omega)
  rw [String.utf8EncodeChar]
  simp only [Char.toNat_val, toNat_ofNat_of_isValidChar valid]
  rcases cases with ⟨x, rfl, _, _, _⟩ | ⟨x, y, rfl, _, _, _⟩ | ⟨x, y, z, rfl, _, _⟩
  · rw [if_neg (by omega), if_pos (by omega)]
    simp only [List.cons.injEq, ← UInt8.toNat_inj, UInt8.toNat_ofNat', and_true]
    omega
  · rw [if_neg (by omega), if_neg (by omega), if_pos (by omega)]
    simp only [List.cons.injEq, ← UInt8.toNat_inj, UInt8.toNat_ofNat', and_true]
    omega
  · rw [if_neg (by omega), if_neg (by omega), if_neg (by omega)]
    simp only [List.cons.injEq, ← UInt8.toNat_inj, UInt8.toNat_ofNat', and_true]
    omega

/-- A byte begins the encoding of a character, and others follow it there, if the character is that
byte alone or if they are what it asks for. -/
theorem utf8EncodeChar_eq_cons_iff :
    String.utf8EncodeChar c = b :: tail ↔
      (b < 0x80 ∧ tail = [] ∧ c = Char.ofNat b.toNat) ∨
      ∃ lead, lead? b = some lead ∧ Continues lead.following lead.low lead.high tail ∧
        c = Char.ofNat (bitsAfter lead.bits tail) := by
  constructor
  · intro encodes
    have valid : c.toNat.isValidChar := c.valid
    have self : Char.ofNat c.toNat = c := Char.ofNat_toNat c
    rw [String.utf8EncodeChar] at encodes
    simp only [Char.toNat_val] at encodes
    generalize c.toNat = n at *
    subst self
    -- The number decides how many bytes are needed; each but the first carries six of its bits.
    split_ifs at encodes with one two three <;> obtain ⟨rfl, rfl⟩ := List.cons.inj encodes
    · left
      simp only [UInt8.lt_iff_toNat_lt, UInt8.toNat_ofNat', UInt8.reduceToNat]
      exact ⟨by omega, trivial, congrArg _ (by omega)⟩
    · refine .inr ⟨⟨1, n / 64, 0x80, 0xBF⟩, lead?_eq_some_iff.mpr (.inl ⟨n / 64, ?_⟩), ?_,
        congrArg _ ?_⟩
      · rw [UInt8.toNat_ofNat']
        exact ⟨by omega, by omega, by omega, rfl⟩
      · simp only [Continues, UInt8.le_iff_toNat_le, UInt8.toNat_ofNat', UInt8.reduceToNat,
          and_true]
        omega
      · simp only [bitsAfter, List.foldl, UInt8.toNat_ofNat']
        omega
    · refine .inr ⟨_, lead?_eq_some_iff.mpr (.inr (.inl ⟨n / 4096, by omega, ?_, rfl⟩)), ?_,
        congrArg _ ?_⟩
      · rw [UInt8.toNat_ofNat']
        omega
      · simp only [Continues, UInt8.le_iff_toNat_le, UInt8.toNat_ofNat', UInt8.reduceToNat,
          apply_ite UInt8.toNat, and_true]
        split_ifs <;> omega
      · simp only [bitsAfter, List.foldl, UInt8.toNat_ofNat']
        omega
    · refine .inr ⟨_, lead?_eq_some_iff.mpr (.inr (.inr ⟨n / 262144, by omega, ?_, rfl⟩)), ?_,
        congrArg _ ?_⟩
      · rw [UInt8.toNat_ofNat']
        omega
      · simp only [Continues, UInt8.le_iff_toNat_le, UInt8.toNat_ofNat', UInt8.reduceToNat,
          apply_ite UInt8.toNat, and_true]
        split_ifs <;> omega
      · simp only [bitsAfter, List.foldl, UInt8.toNat_ofNat']
        omega
  · rintro (⟨ascii, rfl, rfl⟩ | ⟨lead, leads, continues, rfl⟩)
    · exact utf8EncodeChar_of_ascii ascii
    · exact utf8EncodeChar_of_continues leads continues

/-! ### Units -/

theorem continueUnit_eq_some_iff :
    continueUnit following bits low high bytes = (some c, rest) ↔
      ∃ tail, bytes = tail ++ rest ∧ Continues following low high tail ∧
        c = Char.ofNat (bitsAfter bits tail) := by
  -- Along the bytes that are asked for; only the first of them has bounds of its own.
  induction following generalizing bits low high bytes with
  | zero =>
    constructor
    · intro done
      obtain ⟨whole, rfl⟩ := Prod.mk.inj done
      exact ⟨[], rfl, rfl, (Option.some.inj whole).symm⟩
    · rintro ⟨_, rfl, rfl, rfl⟩
      rfl
  | succ following ih =>
    cases bytes with
    | nil =>
      constructor
      · nofun
      · rintro ⟨tail, empty, continues, -⟩
        obtain ⟨rfl, -⟩ := List.append_eq_nil_iff.mp empty.symm
        exact continues.elim
    | cons b bytes =>
      rw [continueUnit]
      split
      · next inside =>
        rw [ih]
        constructor
        · rintro ⟨tail, rfl, continues, rfl⟩
          exact ⟨b :: tail, rfl, ⟨inside, continues⟩, by rw [bitsAfter_cons]⟩
        · rintro ⟨_ | ⟨x, tail⟩, eq, continues, rfl⟩
          · exact continues.elim
          · obtain ⟨rfl, rfl⟩ := List.cons.inj eq
            exact ⟨tail, rfl, continues.2, by rw [bitsAfter_cons]⟩
      · next outside =>
        constructor
        · nofun
        · rintro ⟨_ | ⟨x, tail⟩, eq, continues, rfl⟩
          · exact continues.elim
          · obtain ⟨rfl, rfl⟩ := List.cons.inj eq
            exact absurd continues.1 outside

/-- Where reading on fails, bytes are missing for which the next one does not stand. -/
theorem missing_of_continueUnit (bounds : low ≤ high)
    (failed : continueUnit following bits low high bytes = (none, rest)) :
    ∃ tail, bytes = tail ++ rest ∧
      (∃ missing, missing ≠ [] ∧ Continues following low high (tail ++ missing)) ∧
      ∀ b ∈ rest.head?, ∀ more, ¬ Continues following low high (tail ++ b :: more) := by
  -- What has been read could be completed, but not by the byte at which reading stopped.
  induction following generalizing bits low high bytes with
  | zero => cases failed
  | succ following ih =>
    cases bytes with
    | nil =>
      obtain rfl := (Prod.mk.inj failed).2
      obtain ⟨tail, continues⟩ := @exists_continues low high (following + 1) bounds
      refine ⟨[], rfl, ⟨tail, ?_, continues⟩, nofun⟩
      rintro rfl
      exact continues
    | cons b bytes =>
      rw [continueUnit] at failed
      split at failed
      · next inside =>
        obtain ⟨tail, rfl, ⟨missing, some, continues⟩, longest⟩ := ih (by decide) failed
        exact ⟨b :: tail, rfl, ⟨missing, some, inside, continues⟩,
          fun x next more continues => longest x next more continues.2⟩
      · next outside =>
        obtain rfl := (Prod.mk.inj failed).2
        obtain ⟨tail, continues⟩ := @exists_continues low high (following + 1) bounds
        refine ⟨[], rfl, ⟨tail, ?_, continues⟩, ?_⟩
        · rintro rfl
          exact continues
        · rintro x next more ⟨inside, -⟩
          obtain rfl := Option.some.inj next
          exact outside inside

/-- The first unit is a character exactly if the bytes begin with the encoding of that character. -/
theorem nextUnit_eq_some_iff :
    nextUnit b bytes = (some c, rest) ↔ b :: bytes = String.utf8EncodeChar c ++ rest := by
  have first : b :: bytes = String.utf8EncodeChar c ++ rest ↔
      ∃ tail, bytes = tail ++ rest ∧ String.utf8EncodeChar c = b :: tail := by
    cases encoding : String.utf8EncodeChar c with
    | nil => exact absurd encoding String.utf8EncodeChar_ne_nil
    | cons x tail => grind
  simp only [first, utf8EncodeChar_eq_cons_iff]
  rw [nextUnit]
  split
  · next ascii =>
    have noLead : lead? b = none := lead?_eq_none_of_ascii ascii
    simp [noLead, ascii, and_comm, eq_comm]
  · next wide =>
    split
    · next lead leads =>
      rw [continueUnit_eq_some_iff]
      simp [wide, leads]
    · next noLead =>
      simp [wide, noLead]

/-- Some character's encoding begins with the given bytes. -/
def Begins (bytes : List UInt8) : Prop :=
  ∃ c tail, String.utf8EncodeChar c = bytes ++ tail

/-- A stretch of bytes, with what follows it, that belongs to no character: it is no encoding, and
it goes as far as it begins one. A byte that begins no character stands for itself. -/
structure Broken (stretch rest : List UInt8) : Prop where
  ne_nil : stretch ≠ []
  begins : stretch.length = 1 ∨ Begins stretch
  not_whole : ∀ c, String.utf8EncodeChar c ≠ stretch
  longest : ∀ b ∈ rest.head?, ¬ Begins (stretch ++ [b])

/-- A unit that is no character is a broken stretch. -/
theorem broken_of_nextUnit (failed : nextUnit b bytes = (none, rest)) :
    ∃ stretch, b :: bytes = stretch ++ rest ∧ Broken stretch rest := by
  rw [nextUnit] at failed
  split at failed
  · cases failed
  · next wide =>
    -- What follows the byte in an encoding is what it asks for, if it is a first byte at all.
    have asked {c : Char} {tail : List UInt8} (encodes : String.utf8EncodeChar c = b :: tail) :
        ∃ lead, lead? b = some lead ∧ Continues lead.following lead.low lead.high tail := by
      rcases utf8EncodeChar_eq_cons_iff.mp encodes with ⟨ascii, -⟩ | ⟨lead, leads, continues, -⟩
      · exact absurd ascii wide
      · exact ⟨lead, leads, continues⟩
    split at failed
    · next lead leads =>
      simp only [leads, Option.some.injEq, exists_eq_left'] at asked
      obtain ⟨tail, rfl, ⟨missing, some, continues⟩, longest⟩ :=
        missing_of_continueUnit (low_le_high_of_lead? leads) failed
      refine ⟨b :: tail, rfl, nofun, .inr ?_, ?_, ?_⟩
      · exact ⟨_, missing, utf8EncodeChar_of_continues leads continues⟩
      · intro c whole
        have short := (asked whole).length_eq
        have long := continues.length_eq
        rw [List.length_append] at long
        exact some (List.length_eq_zero_iff.mp (by omega))
      · rintro x next ⟨c, more, encodes⟩
        rw [List.append_assoc] at encodes
        exact longest x next more (asked encodes)
    · next noLead =>
      simp only [noLead, reduceCtorEq, false_and, exists_false] at asked
      obtain rfl := (Prod.mk.inj failed).2
      exact ⟨[b], rfl, nofun, .inl rfl, fun c whole => asked whole,
        fun x _ ⟨c, more, encodes⟩ => asked encodes⟩

/-! ### Reading a byte sequence -/

/-- A byte sequence stands for a text in which there is U+FFFD for each broken stretch. -/
inductive Decodes : List UInt8 → List Char → Prop
  | nil : Decodes [] []
  | character {c : Char} {rest : List UInt8} {text : List Char} (after : Decodes rest text) :
    Decodes (String.utf8EncodeChar c ++ rest) (c :: text)
  | broken {stretch rest : List UInt8} {text : List Char} (broken : Broken stretch rest)
    (after : Decodes rest text) : Decodes (stretch ++ rest) (replacement :: text)

theorem units_cons (b : UInt8) (bytes : List UInt8) :
    units (b :: bytes) = (nextUnit b bytes).1 :: units (nextUnit b bytes).2 := by
  rw [units]

/-- An encoding is read as the character it encodes, whatever follows. -/
theorem exists_nextUnit_utf8EncodeChar (c : Char) (rest : List UInt8) :
    ∃ b tail, String.utf8EncodeChar c = b :: tail ∧
      nextUnit b (tail ++ rest) = (some c, rest) := by
  obtain ⟨b, tail, encodes⟩ := List.exists_cons_of_ne_nil (String.utf8EncodeChar_ne_nil (c := c))
  refine ⟨b, tail, encodes, ?_⟩
  rw [nextUnit_eq_some_iff, encodes]
  rfl

/-- No encoding is the beginning of another. -/
theorem utf8EncodeChar_append_inj
    (same : String.utf8EncodeChar c ++ rest = String.utf8EncodeChar c' ++ rest') :
    c = c' ∧ rest = rest' := by
  obtain ⟨b, tail, encodes, first⟩ := exists_nextUnit_utf8EncodeChar c rest
  have second : nextUnit b (tail ++ rest) = (some c', rest') := by
    rw [nextUnit_eq_some_iff, ← same, encodes]
    rfl
  simpa using first.symm.trans second

/-- A broken stretch does not begin with a character, also not together with what follows it. -/
theorem Broken.ne_character (broken : Broken stretch rest) :
    stretch ++ rest ≠ String.utf8EncodeChar c ++ rest' := by
  intro same
  -- One of the stretch and the encoding begins with the other.
  rcases List.append_eq_append_iff.mp same with ⟨more, encodes, rfl⟩ | ⟨more, rfl, -⟩
  · cases more with
    | nil => exact broken.not_whole c (by rw [encodes, List.append_nil])
    | cons x more => exact broken.longest x rfl ⟨c, more, by simp [encodes]⟩
  · have whole : more ≠ [] := by
      rintro rfl
      exact broken.not_whole c (List.append_nil _).symm
    rcases broken.begins with single | ⟨c', tail, encodes⟩
    · have := List.length_pos_of_ne_nil whole
      have := List.length_pos_of_ne_nil (String.utf8EncodeChar_ne_nil (c := c))
      rw [List.length_append] at single
      omega
    · have same : String.utf8EncodeChar c ++ (more ++ tail) = String.utf8EncodeChar c' ++ [] := by
        rw [encodes, List.append_nil, List.append_assoc]
      exact whole (List.append_eq_nil_iff.mp (utf8EncodeChar_append_inj same).2).1

theorem Broken.not_longer {x : UInt8} {more : List UInt8} (broken : Broken stretch (x :: rest)) :
    ¬ Broken (stretch ++ x :: more) rest' := by
  intro longer
  rcases longer.begins with single | ⟨c, tail, encodes⟩
  · have := List.length_pos_of_ne_nil broken.ne_nil
    rw [List.length_append, List.length_cons] at single
    omega
  · exact broken.longest x rfl ⟨c, more ++ tail, by simp [encodes]⟩

/-- A byte sequence begins with one broken stretch at most. -/
theorem Broken.unique (broken : Broken stretch rest) (broken' : Broken stretch' rest')
    (same : stretch ++ rest = stretch' ++ rest') : rest = rest' := by
  rcases List.append_eq_append_iff.mp same with ⟨_ | ⟨x, more⟩, rfl, rfl⟩ |
    ⟨_ | ⟨x, more⟩, rfl, rfl⟩
  · rfl
  · exact absurd broken' broken.not_longer
  · rfl
  · exact absurd broken broken'.not_longer

theorem units_character (c : Char) (rest : List UInt8) :
    units (String.utf8EncodeChar c ++ rest) = some c :: units rest := by
  obtain ⟨b, tail, encodes, first⟩ := exists_nextUnit_utf8EncodeChar c rest
  rw [encodes, List.cons_append, units_cons, first]

theorem Broken.units (broken : Broken stretch rest) :
    units (stretch ++ rest) = none :: units rest := by
  obtain ⟨b, tail, rfl⟩ := List.exists_cons_of_ne_nil broken.ne_nil
  rw [List.cons_append, units_cons]
  rcases unit : nextUnit b (tail ++ rest) with ⟨_ | c, rest'⟩
  · obtain ⟨stretch', same, broken'⟩ := broken_of_nextUnit unit
    rw [broken.unique broken' same]
  · exact absurd (nextUnit_eq_some_iff.mp unit) broken.ne_character

/-- Bytes are read unit by unit: nothing, a character, or a broken stretch. -/
theorem units_induction {motive : List UInt8 → Prop} (nil : motive [])
    (character : ∀ c rest, motive rest → motive (String.utf8EncodeChar c ++ rest))
    (broken : ∀ stretch rest, Broken stretch rest → motive rest → motive (stretch ++ rest))
    (bytes : List UInt8) : motive bytes := by
  induction bytes using units.induct with
  | case1 => exact nil
  | case2 b bytes shorter ih =>
    rcases unit : nextUnit b bytes with ⟨_ | c, rest⟩ <;> rw [unit] at ih
    · obtain ⟨stretch, same, isBroken⟩ := broken_of_nextUnit unit
      rw [same]
      exact broken stretch rest isBroken ih
    · rw [nextUnit_eq_some_iff.mp unit]
      exact character c rest ih

theorem decode?_nil : decode? [] = some [] := by
  rw [decode?, units, characters?]

theorem decode?_character (c : Char) (rest : List UInt8) :
    decode? (String.utf8EncodeChar c ++ rest) = (decode? rest).map (c :: ·) := by
  rw [decode?, units_character, characters?, decode?]

theorem Broken.decode?_eq_none (broken : Broken stretch rest) :
    decode? (stretch ++ rest) = none := by
  rw [decode?, broken.units, characters?]

theorem decodeLenient_nil : decodeLenient [] = [] := by
  rw [decodeLenient, units, List.map_nil]

theorem decodeLenient_character (c : Char) (rest : List UInt8) :
    decodeLenient (String.utf8EncodeChar c ++ rest) = c :: decodeLenient rest := by
  rw [decodeLenient, units_character, List.map_cons, Option.getD_some, decodeLenient]

theorem Broken.decodeLenient_eq (broken : Broken stretch rest) :
    decodeLenient (stretch ++ rest) = replacement :: decodeLenient rest := by
  rw [decodeLenient, broken.units, List.map_cons, Option.getD_none, decodeLenient]

/-- Decoding gives a text for its encoding and for nothing else. -/
theorem decode?_eq_some_iff : decode? bytes = some text ↔ bytes = encode text := by
  -- Along the units, as an induction on the bytes would stop inside a character.
  induction bytes using units_induction generalizing text with
  | nil =>
    rw [decode?_nil, Option.some.injEq]
    cases text with
    | nil => simp
    | cons c text =>
      have some : encode (c :: text) ≠ [] := by simp
      exact ⟨nofun, fun same => absurd same.symm some⟩
  | character c rest ih =>
    rw [decode?_character, Option.map_eq_some_iff]
    constructor
    · rintro ⟨text, decoded, rfl⟩
      rw [ih.mp decoded, encode_cons]
    · intro same
      cases text with
      | nil => exact absurd (List.append_eq_nil_iff.mp same).1 String.utf8EncodeChar_ne_nil
      | cons c' text =>
        obtain ⟨rfl, rest⟩ := utf8EncodeChar_append_inj same
        exact ⟨text, ih.mpr rest, rfl⟩
  | broken stretch rest isBroken ih =>
    rw [isBroken.decode?_eq_none]
    cases text with
    | nil => simp [isBroken.ne_nil]
    | cons c text => simpa using isBroken.ne_character

theorem decode?_encode (text : List Char) : decode? (encode text) = some text :=
  decode?_eq_some_iff.mpr rfl

theorem decode?_eq_none_iff : decode? bytes = none ↔ ∀ text, bytes ≠ encode text := by
  rw [Option.eq_none_iff_forall_ne_some]
  exact forall_congr' fun text => not_congr decode?_eq_some_iff

/-- What is no encoding has a stretch that U+FFFD takes the place of. -/
theorem replacement_mem_decodeLenient (undecodable : decode? bytes = none) :
    replacement ∈ decodeLenient bytes := by
  induction bytes using units_induction with
  | nil => simp [decode?_nil] at undecodable
  | character c rest ih =>
    rw [decode?_character, Option.map_eq_none_iff] at undecodable
    rw [decodeLenient_character]
    exact List.mem_cons_of_mem c (ih undecodable)
  | broken stretch rest isBroken ih =>
    rw [isBroken.decodeLenient_eq]
    exact List.mem_cons_self

/-- A byte sequence stands for one text only, the one that lenient decoding gives. -/
theorem decodes_iff : Decodes bytes text ↔ text = decodeLenient bytes := by
  constructor
  · intro decodes
    induction decodes with
    | nil => exact decodeLenient_nil.symm
    | character after ih => rw [decodeLenient_character, ih]
    | broken isBroken after ih => rw [isBroken.decodeLenient_eq, ih]
  · rintro rfl
    induction bytes using units_induction with
    | nil => rw [decodeLenient_nil]; exact .nil
    | character c rest ih => rw [decodeLenient_character]; exact .character ih
    | broken stretch rest isBroken ih => rw [isBroken.decodeLenient_eq]; exact .broken isBroken ih

end QueryGate.Text.Utf8
