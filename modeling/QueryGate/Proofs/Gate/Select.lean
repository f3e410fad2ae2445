import Mathlib.Tactic.Tauto
import QueryGate.Gate.Check
import QueryGate.Proofs.Text.Spacing

/-!
# The word `SELECT` at the beginning of a query

A match that ignores case takes more characters for the letters of `SELECT` than the two cases of
each: the long s is one. All of them are word characters with that letter as their upper-case form,
so a text that begins with `SELECT` in this sense has it as its first word.

## Main results

* `mem_of_mapFirst_eq` — the only code points that a table of case runs can map to a given one
* `upper_of_sameLetter` — a variant of a letter of `SELECT` has that letter as its capital
* `BeginsWithSelect` — a text whose first word, after white space, is `SELECT`
* `beginsWithSelect_of_normalize` — the first word is the same in the normal form
-/

namespace QueryGate.Text

variable {c letter : Char} {a b : List Char}

/-! ### Variants of a letter -/

/-- A table of runs maps a code point to itself or along one of its runs. -/
theorem CaseRun.mem_of_mapFirst_eq {runs : List CaseRun} {n m : Nat} (positive : 0 < m)
    (h : mapFirst runs n = m) : n ∈ m :: origins runs m := by
  -- The first run that covers `n` maps it, and if this one does not, then one of the rest.
  induction runs with
  | nil => exact List.mem_cons.mpr (.inl h)
  | cons r rest ih =>
    rw [mapFirst] at h
    split at h
    · next covered =>
      have back : r.origin m = n := by
        simp only [target, origin] at h ⊢
        omega
      have forth : r.target n = m := h
      simp [origins, back, covered, forth]
    · have := ih h
      simp only [origins, List.filter_cons, List.mem_cons] at this ⊢
      split
      · simp only [List.map_cons, List.mem_cons]
        tauto
      · exact this

/-- Only the zero character stands for numbers that are no code points. -/
theorem eq_toNat_of_ofNat_eq {n : Nat} (same : Char.ofNat n = c) (nonzero : c.toNat ≠ 0) :
    n = c.toNat := by
  by_cases valid : n.isValidChar
  · rw [← same, Char.ofNat, dif_pos valid]
    rfl
  · rw [Char.ofNat, dif_neg valid] at same
    exact absurd (same ▸ rfl) nonzero

/-- The code points of the characters that can share a small letter with the given one. -/
def variantCodes (c : Char) : List Nat :=
  List.range 0x80 ++ (smallLetterFamily c).flatMap fun m => m :: CaseRun.origins lowerRuns m

theorem toNat_mem_variantCodes (nonzero : 0 ∉ smallLetterFamily letter)
    (same : sameLetter letter c = true) (other : letter ≠ c) : c.toNat ∈ variantCodes letter := by
  have family : (smallLetter c).toNat ∈ smallLetterFamily letter := by
    simpa [sameLetter, other] using same
  rw [variantCodes, List.mem_append, List.mem_range, or_iff_not_imp_left]
  intro beyond
  rw [smallLetter, if_neg beyond] at family
  refine List.mem_flatMap.mpr ⟨_, family, CaseRun.mem_of_mapFirst_eq ?_ ?_⟩
  · exact Nat.pos_of_ne_zero fun zero => nonzero (zero ▸ family)
  · exact eq_toNat_of_ofNat_eq rfl fun zero => nonzero (zero ▸ family)

/-- Every variant of a letter of `SELECT` is a word character with that letter as its capital. -/
theorem upper_of_sameLetter (member : letter ∈ Gate.Keyword.select)
    (same : sameLetter letter c = true) : isWordChar c = true ∧ upper c = [letter] := by
  -- The letters and their variants are few, so a table of all of them can be gone through.
  have nonzero : Gate.Keyword.select.all (fun l => decide (0 ∉ smallLetterFamily l)) = true := by
    decide +kernel
  have itself : Gate.Keyword.select.all (fun l => decide (isWordChar l = true ∧ upper l = [l])) =
      true := by decide +kernel
  have table : Gate.Keyword.select.all (fun l => (variantCodes l).all fun n =>
      decide (sameLetter l (Char.ofNat n) = true →
        isWordChar (Char.ofNat n) = true ∧ upper (Char.ofNat n) = [l])) = true := by decide +kernel
  rw [List.all_eq_true] at nonzero itself table
  by_cases other : letter = c
  · exact other ▸ of_decide_eq_true (itself letter member)
  · have code := toNat_mem_variantCodes (of_decide_eq_true (nonzero letter member)) same other
    have variant := of_decide_eq_true (List.all_eq_true.mp (table letter member) _ code)
    rw [Char.ofNat_toNat] at variant
    exact variant same

/-! ### The first word -/

theorem afterLetters?_eq_some {letters rest : List Char} (h : afterLetters? letters a = some rest) :
    ∃ front, a = front ++ rest ∧
      List.Forall₂ (fun letter c => sameLetter letter c = true) letters front := by
  fun_induction afterLetters? letters a with
  | case1 text => exact ⟨[], Option.some.inj h, .nil⟩
  | case2 => cases h
  | case3 letter letters c text same ih =>
    obtain ⟨front, rfl, all⟩ := ih h
    exact ⟨c :: front, rfl, .cons same all⟩
  | case4 => cases h

/-- Letters that match `SELECT` in either case are word characters and have it as their upper-case
form. -/
theorem upperText_of_forall₂ {letters word : List Char} (known : letters ⊆ Gate.Keyword.select)
    (same : List.Forall₂ (fun letter c => sameLetter letter c = true) letters word) :
    (∀ c ∈ word, isWordChar c = true) ∧ upperText word = letters := by
  induction same with
  | nil => exact ⟨by simp, rfl⟩
  | @cons letter c letters word head _ ih =>
    obtain ⟨first, capital⟩ := upper_of_sameLetter (known List.mem_cons_self) head
    obtain ⟨all, capitals⟩ := ih fun l member => known (List.mem_cons_of_mem _ member)
    refine ⟨fun d member => ?_, ?_⟩
    · obtain rfl | inside := List.mem_cons.mp member
      · exact first
      · exact all d inside
    · rw [upperText, List.flatMap_cons, capital, ← upperText, capitals]
      rfl

/-- A text whose first word, after white space, is `SELECT`: a whole word with nothing but white
space in front of it. -/
def BeginsWithSelect (text : List Char) : Prop :=
  ∃ blank word rest, text = blank ++ word ++ rest ∧ isBlank blank = true ∧
    (∀ c ∈ word, isWordChar c = true) ∧ startsInWord rest = false ∧
    upperText word = Gate.Keyword.select

end QueryGate.Text

namespace QueryGate.Gate

open Text

/-- A text that begins with `SELECT` has it as its first word. -/
theorem exists_word_of_startsWithSelect {text : List Char} (h : startsWithSelect text = true) :
    ∃ word rest, text = word ++ rest ∧ (∀ c ∈ word, isWordChar c = true) ∧
      startsInWord rest = false ∧ upperText word = Keyword.select := by
  rw [startsWithSelect] at h
  cases after : afterLetters? Keyword.select text with
  | none => simp [after] at h
  | some rest =>
    obtain ⟨word, rfl, same⟩ := afterLetters?_eq_some after
    obtain ⟨all, capitals⟩ := upperText_of_forall₂ (List.Subset.refl _) same
    exact ⟨word, rest, rfl, all, by simpa [after] using h, capitals⟩

theorem ne_nil_of_upperText_eq_select {word : List Char} (h : upperText word = Keyword.select) :
    word ≠ [] := by
  rintro rfl
  exact absurd h (by decide)

/-- The first word of a normal form is the first word of the text after its white space. -/
theorem beginsWithSelect_of_normalize {text : List Char}
    (h : startsWithSelect (normalize text) = true) : BeginsWithSelect text := by
  obtain ⟨word, rest, eq, all, ends, capitals⟩ := exists_word_of_startsWithSelect h
  have found := wordsAt_append_of_all (ne_nil_of_upperText_eq_select capitals) all ends
  have starts : startsInWord (text.dropWhile isSpace) = true := by
    rw [← startsInWord_normalize, eq, startsInWord_append (ne_nil_of_upperText_eq_select capitals)]
    obtain ⟨c, t, rfl⟩ := List.exists_cons_of_ne_nil (ne_nil_of_upperText_eq_select capitals)
    exact all c List.mem_cons_self
  have first := wordsAt_of_startsInWord starts
  -- Both texts begin with a word, and they have the same words.
  have same : (text.dropWhile isSpace).takeWhile isWordChar = word := by
    have both := words_normalize text
    rw [eq, words, found, words, ← wordsAt_dropWhile_isSpace text, first] at both
    exact (List.cons.inj both).1.symm
  refine ⟨text.takeWhile isSpace, word, (text.dropWhile isSpace).dropWhile isWordChar, ?_, ?_, all,
    ?_, capitals⟩
  · rw [← same, List.append_assoc, List.takeWhile_append_dropWhile,
      List.takeWhile_append_dropWhile]
  · exact List.all_eq_true.mpr fun c member => List.mem_takeWhile_imp member
  · exact startsInWord_dropWhile _

/-- A text that begins with the word `SELECT` has such a word. -/
theorem countWord_pos_of_beginsWithSelect {text : List Char} (h : BeginsWithSelect text) :
    0 < countWord Keyword.select text := by
  obtain ⟨blank, word, rest, rfl, spaces, all, ends, capitals⟩ := h
  have outside : endsInWord blank = false := by
    rw [endsInWord]
    cases last : blank.getLast? with
    | none => rfl
    | some c =>
      exact isWordChar_of_isSpace (List.all_eq_true.mp spaces c (List.mem_of_getLast? last))
  rw [List.append_assoc, countWord_append (.of_endsInWord outside)]
  have found : word ∈ words (word ++ rest) := by
    rw [words, wordsAt_append_of_all (ne_nil_of_upperText_eq_select capitals) all ends]
    exact List.mem_cons_self
  have here : 0 < countWord Keyword.select (word ++ rest) :=
    List.countP_pos_iff.mpr ⟨word, found, by simpa using capitals⟩
  omega

end QueryGate.Gate
