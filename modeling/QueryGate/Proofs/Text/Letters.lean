import QueryGate.Proofs.Gate.Select

/-!
# What ignoring case can change

Only finitely many characters can be taken for a given letter, so what all of them have in common
can be read off a table: the marks of a query stand for themselves alone, and whatever is taken for
a capital letter is a word character.

## Main results

* `mem_caseVariants` — whatever is taken for a letter is one of its case variants
* `forall_sameLetter` — a property of the case variants is one of whatever is taken for a letter
* `eq_of_sameLetter` — a mark has no other variant
* `isWordChar_of_sameLetter` — the variants of a capital letter are word characters
* `isWordChar_of_isDecimalDigit` — so are all decimal digits
-/

namespace QueryGate.Text

variable {c letter : Char} {letters word rest : List Char}

/-- The marks that can stand in a query beside words. -/
def marks : List Char := " *,.()=!<>-\x27\x22\x60\\".toList

/-- The letters in which keywords are written. -/
def capitals : List Char := "ABCDEFGHIJKLMNOPQRSTUVWXYZ".toList

/-- A character is its own small letter within ASCII or the capital of it. -/
theorem eq_toLower_or_eq_toUpper (c : Char) : c = c.toLower ∨ c = c.toLower.toUpper := by
  by_cases capital : c.val ≥ 'A'.val ∧ c.val ≤ 'Z'.val
  · right
    have low : 65 ≤ c.val.toNat := UInt32.le_iff_toNat_le.mp capital.1
    have high : c.val.toNat ≤ 90 := UInt32.le_iff_toNat_le.mp capital.2
    have lower : c.toLower.val = c.val + 32 := by
      delta Char.toLower
      rw [dif_pos capital]
      rfl
    have code : c.toLower.val.toNat = c.val.toNat + 32 := by
      rw [lower, UInt32.toNat_add]
      exact Nat.mod_eq_of_lt (by show c.val.toNat + 32 < 2 ^ 32; omega)
    have small : c.toLower.val ≥ 'a'.val ∧ c.toLower.val ≤ 'z'.val :=
      ⟨UInt32.le_iff_toNat_le.mpr (by show 97 ≤ c.toLower.val.toNat; omega),
        UInt32.le_iff_toNat_le.mpr (by show c.toLower.val.toNat ≤ 122; omega)⟩
    have upper : c.toLower.toUpper.val = c.toLower.val + ('A'.val - 'a'.val) := by
      delta Char.toUpper
      rw [dif_pos small]
    -- The two shifts cancel modulo `2 ^ 32`.
    have back : (32 : UInt32) + ('A'.val - 'a'.val) = 0 := by decide
    exact Char.ext (by rw [upper, lower, UInt32.add_assoc, back, UInt32.add_zero])
  · left
    delta Char.toLower
    rw [dif_neg capital]

theorem mem_formsOfSmallLetter_toLower (c : Char) : c ∈ formsOfSmallLetter c.toLower.toNat := by
  rw [formsOfSmallLetter, Char.ofNat_toNat]
  by_cases same : c = c.toLower
  · exact List.mem_append_left _ (List.mem_append_left _ (List.mem_singleton.mpr same))
  · have capital : c = c.toLower.toUpper := (eq_toLower_or_eq_toUpper c).resolve_left same
    simp [← capital, same]

/-- Whatever is taken for another character is one of its case variants. -/
theorem mem_caseVariants (nonzero : 0 ∉ smallLetterFamily letter)
    (same : sameLetter letter c = true) (other : letter ≠ c) : c ∈ caseVariants letter := by
  by_cases ascii : c.toNat < 0x80
  · have family : (smallLetter c).toNat ∈ smallLetterFamily letter := by
      simpa [sameLetter, other] using same
    rw [smallLetter, if_pos ascii] at family
    exact List.mem_flatMap.mpr ⟨_, family, mem_formsOfSmallLetter_toLower c⟩
  · obtain low | high := List.mem_append.mp (toNat_mem_variantCodes nonzero same other)
    · exact absurd (List.mem_range.mp low) ascii
    · obtain ⟨small, family, code⟩ := List.mem_flatMap.mp high
      refine List.mem_flatMap.mpr ⟨small, family, ?_⟩
      obtain itself | origin := List.mem_cons.mp code
      · simp [formsOfSmallLetter, ← itself]
      · exact List.mem_append_right _ (List.mem_map.mpr ⟨_, origin, Char.ofNat_toNat c⟩)

/-- What holds of some letters and of all their case variants holds of whatever is taken for one of
them. -/
theorem forall_sameLetter {p : Char → Char → Bool}
    (table : letters.all (fun l => decide (0 ∉ smallLetterFamily l) && p l l &&
      (caseVariants l).all (p l)) = true)
    (member : letter ∈ letters) (same : sameLetter letter c = true) : p letter c = true := by
  have row := List.all_eq_true.mp table letter member
  simp only [Bool.and_eq_true, decide_eq_true_eq] at row
  obtain ⟨⟨nonzero, itself⟩, variants⟩ := row
  by_cases other : letter = c
  · exact other ▸ itself
  · exact List.all_eq_true.mp variants c (mem_caseVariants nonzero same other)

set_option maxRecDepth 20000 in
/-- What is taken for a mark or a capital letter is the same character, or both are word
characters. -/
theorem eq_or_isWordChar_of_sameLetter (member : letter ∈ marks ++ capitals)
    (same : sameLetter letter c = true) :
    c = letter ∨ isWordChar letter = true ∧ isWordChar c = true := by
  have variant := forall_sameLetter
    (p := fun l d => decide (d = l ∨ isWordChar l = true ∧ isWordChar d = true))
    (by decide) member same
  exact of_decide_eq_true variant

/-- A mark stands for itself alone. -/
theorem eq_of_sameLetter (member : letter ∈ marks) (same : sameLetter letter c = true) :
    c = letter := by
  have table : marks.all (fun l => !isWordChar l) = true := by decide
  have outside := List.all_eq_true.mp table letter member
  refine (eq_or_isWordChar_of_sameLetter (List.mem_append_left _ member) same).resolve_right ?_
  simp_all

theorem sameLetter_self (c : Char) : sameLetter c c = true := by
  simp [sameLetter]

theorem sameLetter_mark_iff (member : letter ∈ marks) :
    sameLetter letter c = true ↔ c = letter := by
  constructor
  · exact eq_of_sameLetter member
  · rintro rfl
    exact sameLetter_self c

/-- The variants of a capital letter are word characters. -/
theorem isWordChar_of_sameLetter (member : letter ∈ capitals) (same : sameLetter letter c = true) :
    isWordChar c = true := by
  have table : capitals.all isWordChar = true := by decide
  obtain rfl | both := eq_or_isWordChar_of_sameLetter (List.mem_append_right _ member) same
  · exact List.all_eq_true.mp table c member
  · exact both.2

/-- Whether ascending ranges lie within the ranges of a set. Each of them is passed over once the
range that holds it has been reached. -/
def Ranges.areWithin (inner : Ranges) : Ranges → Bool
  | [] => inner.isEmpty
  | q :: outer => Ranges.areWithin (inner.dropWhile fun r => q.1 ≤ r.1 && r.2 ≤ q.2) outer

theorem Ranges.covers_iff {ranges : Ranges} {n : Nat} :
    ranges.covers n = true ↔ ∃ r ∈ ranges, r.1 ≤ n ∧ n ≤ r.2 := by
  induction ranges with
  | nil => simp [covers]
  | cons r ranges ih => simp [covers, ih]

/-- Ranges that lie within the ranges of a set cover no more than the set. -/
theorem Ranges.covers_of_areWithin {inner outer : Ranges} {n : Nat}
    (within : inner.areWithin outer = true) (covered : inner.covers n = true) :
    outer.covers n = true := by
  -- What the first range of `outer` does not hold is left to the others.
  induction outer generalizing inner with
  | nil =>
    obtain rfl := List.isEmpty_iff.mp within
    cases covered
  | cons q outer ih =>
    obtain ⟨r, member, low, high⟩ := covers_iff.mp covered
    rw [← List.takeWhile_append_dropWhile (p := fun r => q.1 ≤ r.1 && r.2 ≤ q.2) (l := inner)]
      at member
    obtain passed | left := List.mem_append.mp member
    · have bounds : q.1 ≤ r.1 ∧ r.2 ≤ q.2 := by simpa using List.mem_takeWhile_imp passed
      exact covers_iff.mpr ⟨q, List.mem_cons_self, bounds.1.trans low, high.trans bounds.2⟩
    · have later := ih within (covers_iff.mpr ⟨r, left, low, high⟩)
      obtain ⟨s, found, inside⟩ := covers_iff.mp later
      exact covers_iff.mpr ⟨s, .tail q found, inside⟩

set_option maxRecDepth 20000 in
/-- All decimal digits are word characters. -/
theorem isWordChar_of_isDecimalDigit (digit : isDecimalDigit c = true) : isWordChar c = true := by
  rw [isDecimalDigit] at digit
  rw [isWordChar]
  split at digit
  · next ascii => simp [ascii, Char.isAlphanum, digit]
  · next beyond =>
    rw [if_neg beyond]
    exact Ranges.covers_of_areWithin (by decide) digit

/-- A text that begins with some letters, in either case, goes on after them. -/
theorem afterLetters?_append
    (same : List.Forall₂ (fun letter c => sameLetter letter c = true) letters word) :
    afterLetters? letters (word ++ rest) = some rest := by
  induction same with
  | nil => rfl
  | cons head tail ih => rw [List.cons_append, afterLetters?, if_pos head, ih]

end QueryGate.Text
