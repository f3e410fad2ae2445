import QueryGate.Pattern.Reader
import QueryGate.Proofs.Pattern.Language
import QueryGate.Proofs.Text.LetterCase

/-!
# Two ways to find the word `SELECT`

The beginning of a query is matched letter by letter, ignoring case; the words of a query are
written in upper case and compared. The two could differ where a letter has a variant with another
capital, or where one character stands for several capitals. Neither happens with the letters of
`SELECT`: the characters with one of them as their upper-case form are its variants, and no
character has two of them in a row. So a text begins with `SELECT` in the one sense exactly if its
first word is `SELECT` in the other.

## Main definitions

* `capitalCodes` — the characters that can have a given capital
* `wordExpression` — the regular expression for a word at the beginning of a text

## Main results

* `exists_of_upper_isInfix` — a character whose capitals stand in `SELECT` is a variant of a letter
* `forall₂_of_upperText` — a word that is `SELECT` in upper case matches it letter by letter
* `startsWithSelect_iff_exists_mem_ends` — the letters in a row as a regular expression
* `startsWithSelect_iff_upperText_takeWhile` — the first word in upper case
* `select_found_alike` — the two ways to find the word agree
-/

namespace QueryGate.Text

variable {c letter : Char} {letters word rest : List Char}

/-! ### Characters with a given capital -/

/-- The code points of the characters that can have the given one as their upper-case form. -/
def capitalCodes (letter : Char) : List Nat :=
  List.range 0x80 ++ letter.toNat :: CaseRun.origins upperRuns letter.toNat

/-- The upper-case form of a character comes from the table of longer forms, or it is one character
that tells which ones it can come from. -/
theorem upper_cases (c : Char) :
    (∃ row ∈ upperExpansions, upper c = row.2.map Char.ofNat) ∨
      ∃ letter, upper c = [letter] ∧ (letter.toNat ≠ 0 → c.toNat ∈ capitalCodes letter) := by
  rw [upper]
  split
  · next ascii =>
    refine .inr ⟨c.toUpper, rfl, fun _ => List.mem_append_left _ (List.mem_range.mpr ascii)⟩
  · rw [upperBeyondAscii]
    split
    · next expansion found =>
      obtain ⟨before, after, eq, -⟩ := List.lookup_eq_some_iff.mp found
      exact .inl ⟨(c.toNat, expansion), by simp [eq], rfl⟩
    · refine .inr ⟨_, rfl, fun nonzero => List.mem_append_right _ ?_⟩
      exact CaseRun.mem_of_mapFirst_eq (Nat.pos_of_ne_zero nonzero)
        (eq_toNat_of_ofNat_eq rfl nonzero)

/-- None of the longer upper-case forms stands in `SELECT`. -/
theorem not_isInfix_of_mem_upperExpansions {row : Nat × List Nat} (member : row ∈ upperExpansions) :
    ¬ row.2.map Char.ofNat <:+: Gate.Keyword.select := by
  have table : upperExpansions.all (fun row =>
      !decide (row.2.map Char.ofNat <:+: Gate.Keyword.select)) = true := by decide +kernel
  simpa using List.all_eq_true.mp table row member

/-- The characters with a letter of `SELECT` as their upper-case form are variants of that letter. -/
theorem sameLetter_of_mem_capitalCodes {n : Nat} (member : letter ∈ Gate.Keyword.select)
    (code : n ∈ capitalCodes letter) (capital : upper (Char.ofNat n) = [letter]) :
    sameLetter letter (Char.ofNat n) = true := by
  have table : Gate.Keyword.select.all (fun l => (capitalCodes l).all fun n =>
      decide (upper (Char.ofNat n) = [l] → sameLetter l (Char.ofNat n) = true)) = true := by
    decide +kernel
  have row := List.all_eq_true.mp table letter member
  exact of_decide_eq_true (List.all_eq_true.mp row n code) capital

/-- A character whose upper-case form stands in `SELECT` is a variant of one of its letters. -/
theorem exists_of_upper_isInfix (inside : upper c <:+: Gate.Keyword.select) :
    ∃ letter, upper c = [letter] ∧ sameLetter letter c = true := by
  obtain ⟨row, member, eq⟩ | ⟨letter, eq, code⟩ := upper_cases c
  · rw [eq] at inside
    exact absurd inside (not_isInfix_of_mem_upperExpansions member)
  · have member : letter ∈ Gate.Keyword.select := inside.subset (by simp [eq])
    have table : Gate.Keyword.select.all (fun l => l.toNat != 0) = true := by decide
    have nonzero : letter.toNat ≠ 0 := by simpa using List.all_eq_true.mp table letter member
    refine ⟨letter, eq, ?_⟩
    rw [← Char.ofNat_toNat c] at eq ⊢
    exact sameLetter_of_mem_capitalCodes member (code nonzero) eq

/-- A word whose upper-case form is an end of `SELECT` matches that end letter by letter. -/
theorem forall₂_of_upperText (part : letters <:+ Gate.Keyword.select)
    (capitals : upperText word = letters) :
    List.Forall₂ (fun letter c => sameLetter letter c = true) letters word := by
  induction word generalizing letters with
  | nil =>
    subst capitals
    exact .nil
  | cons c word ih =>
    -- The capitals of the first character begin an end of the word, so they stand in it.
    rw [upperText_cons] at capitals
    subst capitals
    have inside : upper c <:+: Gate.Keyword.select :=
      (List.prefix_append _ _).isInfix.trans part.isInfix
    obtain ⟨letter, eq, same⟩ := exists_of_upper_isInfix inside
    rw [eq] at part ⊢
    exact .cons same (ih ((List.suffix_cons _ _).trans part) rfl)

end QueryGate.Text

namespace QueryGate.Gate

open Pattern Text

variable {text letters word rest : List Char}

/-! ### The letters as a regular expression -/

/-- The regular expression for a word at the beginning of a text: its letters one after the other,
and no word character behind them. -/
def wordExpression (letters : List Char) : Expression :=
  letters.foldr (fun letter e => .seq (.char letter) e)
    (.lookahead true (.oneOf false [.category .word false]))

theorem readExpression_select :
    readExpression "SELECT(?!\\w)".toList = .ok (wordExpression Keyword.select) := by decide

/-- A step past a character, told by the text from there on. -/
theorem passes_iff {ignoreCase : Bool} {test : Char → Bool} {j : Nat} (front : List Char) :
    Subject.Passes ⟨(front ++ rest).toArray, ignoreCase⟩ test front.length j ↔
      ∃ c back, rest = c :: back ∧ test c = true ∧ j = (front ++ [c]).length := by
  refine (spans_passes test front rest rfl j).trans ?_
  constructor
  · rintro ⟨-, ⟨c, passed, rfl⟩, back, rfl, rfl⟩
    exact ⟨c, back, rfl, passed, rfl⟩
  · rintro ⟨c, back, rfl, passed, rfl⟩
    exact ⟨[c], ⟨c, passed, rfl⟩, back, rfl, rfl⟩

/-- The expression for a word matches at a place where the letters of the word stand, in either
case, and no longer word goes on behind them. -/
theorem exists_matches_wordExpression_iff (front : List Char) :
    (∃ j, (wordExpression letters).Matches ⟨(front ++ rest).toArray, true⟩ front.length j) ↔
      (afterLetters? letters rest).any (fun behind => !startsInWord behind) = true := by
  -- Letter by letter; what has been matched goes over to the text in front.
  induction letters generalizing front rest with
  | nil =>
    have wordChar (s : Subject) (c : Char) :
        (s.inClass [.category .word false] c != false) = isWordChar c := by
      simp [Subject.inClass, onlyMember?, Subject.hasItem, Category.contains]
    simp only [wordExpression, List.foldr_nil, Expression.Matches, passes_iff, wordChar]
    cases rest <;> simp [afterLetters?]
  | cons letter letters ih =>
    constructor
    · rintro ⟨j, k, first, onward⟩
      obtain ⟨c, back, rfl, same, rfl⟩ := (passes_iff front).mp first
      have same : sameLetter letter c = true := same
      rw [afterLetters?, if_pos same, ← ih (front ++ [c])]
      exact ⟨j, List.append_cons front c back ▸ onward⟩
    · intro found
      cases rest with
      | nil => cases found
      | cons c back =>
        rw [afterLetters?] at found
        split at found
        · next same =>
          obtain ⟨j, onward⟩ := (ih (front ++ [c])).mpr found
          rw [← List.append_cons] at onward
          exact ⟨j, _, (passes_iff front).mpr ⟨c, back, rfl, same, rfl⟩, onward⟩
        · cases found

/-- A text begins with `SELECT` exactly if the regular expression for it matches there. -/
theorem startsWithSelect_iff_exists_mem_ends :
    startsWithSelect text = true ↔
      ∃ j, j ∈ (wordExpression Keyword.select).ends ⟨text.toArray, true⟩ [0] := by
  have ends := (wordExpression Keyword.select).follows_ends ⟨text.toArray, true⟩
  simp only [ends.mem_iff (isPlaces_singleton (Nat.zero_le _)), List.mem_singleton,
    exists_eq_left]
  exact (exists_matches_wordExpression_iff []).symm

/-! ### The first word -/

theorem startsWithSelect_iff :
    startsWithSelect text = true ↔
      ∃ word rest, text = word ++ rest ∧
        List.Forall₂ (fun letter c => sameLetter letter c = true) Keyword.select word ∧
        startsInWord rest = false := by
  rw [startsWithSelect, Option.any_eq_true]
  constructor
  · rintro ⟨rest, after, outside⟩
    obtain ⟨word, rfl, same⟩ := afterLetters?_eq_some after
    exact ⟨word, rest, rfl, same, by simpa using outside⟩
  · rintro ⟨word, rest, rfl, same, outside⟩
    exact ⟨rest, afterLetters?_append same, by simpa using outside⟩

/-- A text begins with `SELECT`, letter by letter, exactly if its first word stands right at its
beginning and is `SELECT` in upper case. -/
theorem startsWithSelect_iff_upperText_takeWhile :
    startsWithSelect text = true ↔
      startsInWord text = true ∧ upperText (text.takeWhile isWordChar) = Keyword.select := by
  constructor
  · intro starts
    obtain ⟨word, rest, rfl, all, ends, capitals⟩ := exists_word_of_startsWithSelect starts
    have nonempty := ne_nil_of_upperText_eq_select capitals
    have found := wordsAt_append_of_all nonempty all ends
    have inWord : startsInWord (word ++ rest) = true := by
      obtain ⟨c, t, rfl⟩ := List.exists_cons_of_ne_nil nonempty
      exact all c List.mem_cons_self
    rw [wordsAt_of_startsInWord inWord] at found
    obtain ⟨same, -⟩ := WordAt.mk.inj (List.cons.inj found).1
    exact ⟨inWord, by rwa [same]⟩
  · rintro ⟨-, capitals⟩
    refine startsWithSelect_iff.mpr ⟨text.takeWhile isWordChar, text.dropWhile isWordChar,
      List.takeWhile_append_dropWhile.symm, ?_, startsInWord_dropWhile text⟩
    exact forall₂_of_upperText (List.suffix_refl _) capitals

/-- A text that begins with `SELECT` has it among its words. -/
theorem one_le_countWord_of_startsWithSelect (starts : startsWithSelect text = true) :
    1 ≤ countWord Keyword.select text := by
  obtain ⟨word, rest, rfl, all, ends, capitals⟩ := exists_word_of_startsWithSelect starts
  exact countWord_pos_of_beginsWithSelect ⟨[], word, rest, rfl, rfl, all, ends, capitals⟩

/-- The regular expression for `SELECT` and the count of words in upper case agree: the one matches
at the beginning of a text exactly if the other counts the first word there. -/
theorem select_found_alike (text : List Char) :
    (∃ e, readExpression "SELECT(?!\\w)".toList = .ok e ∧
      (startsWithSelect text = true ↔ ∃ j, j ∈ e.ends ⟨text.toArray, true⟩ [0])) ∧
    (startsWithSelect text = true ↔
      startsInWord text = true ∧ upperText (text.takeWhile isWordChar) = Keyword.select) ∧
    (startsWithSelect text = true → 1 ≤ countWord Keyword.select text) :=
  ⟨⟨_, readExpression_select, startsWithSelect_iff_exists_mem_ends⟩,
    startsWithSelect_iff_upperText_takeWhile, one_le_countWord_of_startsWithSelect⟩

/-- The long s is a letter of the word in both ways. -/
theorem select_found_alike_of_long_s :
    let text := "\u017FeLeCT 1".toList
    startsWithSelect text = true ∧
      (startsInWord text = true ∧ upperText (text.takeWhile isWordChar) = Keyword.select) ∧
      1 ≤ countWord Keyword.select text := by
  intro text
  have starts : startsWithSelect text = true := by decide +kernel
  obtain ⟨-, first, counted⟩ := select_found_alike text
  exact ⟨starts, first.mp starts, counted starts⟩

end QueryGate.Gate
