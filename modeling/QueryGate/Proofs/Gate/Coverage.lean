import QueryGate.Proofs.Gate.Grounds

/-!
# What the checks of the raw text cover

Further `SELECT` words are counted in the raw text only. That is enough, because the text without
comments has no words of its own: it has those of the code and the quoted texts, in their order, and
neither the space in the place of a comment nor the normal form joins, splits or changes any of
them. With semicolons it is alike: one that is left in the text without comments, its final one
apart, has something behind it in the raw text.

## Main results

* `words_plainForm` — the words of the text without comments, in normal form
* `raw_covers_plainForm` — what the raw text shows of the text without comments
-/

namespace QueryGate.Gate

open Sql Text Segment

/-- Without comments, in normal form and without a final semicolon, a query has the words of its
code and of its quoted texts. -/
theorem words_plainForm (query : List Char) :
    words (dropSemicolon (plainForm (split query))) =
      ((split query).filter fun s => !s.isComment).flatMap fun s => words s.text := by
  rw [words_dropSemicolon, plainForm, words_normalize, words_withoutComments]
  induction split query with
  | nil => rfl
  | cons s later ih =>
    cases comment : s.isComment with
    | true => simp [comment, ih]
    | false => simp [comment, ih]

/-- The words of the text without comments are words of the raw text in the same order, namely those
of its code and its quoted texts. So they are among those that are counted in the raw text; and a
semicolon that is left without the final one has something visible behind it in the raw text. -/
theorem raw_covers_plainForm (query : List Char) :
    (words query = (split query).flatMap (fun s => words s.text) ∧
      words (dropSemicolon (plainForm (split query))) =
        ((split query).filter fun s => !s.isComment).flatMap (fun s => words s.text) ∧
      (words (dropSemicolon (plainForm (split query)))).Sublist (words query)) ∧
    countWord Keyword.select (dropSemicolon (plainForm (split query))) ≤
      countWord Keyword.select query ∧
    (';' ∈ dropSemicolon (plainForm (split query)) →
      hasSeparator query = true ∧ ∃ before blank c after,
        query = before ++ ';' :: (blank ++ c :: after) ∧ isBlank blank = true ∧
          isSpace c = false) := by
  have sublist : (words (dropSemicolon (plainForm (split query)))).Sublist (words query) := by
    rw [words_plainForm, words_eq_flatMap_split query]
    exact List.filter_sublist.flatMap _
  refine ⟨⟨words_eq_flatMap_split query, words_plainForm query, sublist⟩, sublist.countP_le,
    fun semicolon => ?_⟩
  have separator := hasSeparator_of_semicolon_mem semicolon
  exact ⟨separator, hasSeparator_iff.mp separator⟩

/-- Two statements, with a semicolon and a word in a comment between them. -/
theorem raw_covers_plainForm_of_two_statements :
    let query := "SELECT ';' FROM a;/* ;SELECT */ SELECT 2;\t".toList
    ';' ∈ dropSemicolon (plainForm (split query)) ∧
      (words (dropSemicolon (plainForm (split query)))).Sublist (words query) ∧
      countWord Keyword.select (dropSemicolon (plainForm (split query))) ≤
        countWord Keyword.select query ∧
      hasSeparator query = true := by
  intro query
  have semicolon : ';' ∈ dropSemicolon (plainForm (split query)) := by decide +kernel
  obtain ⟨⟨-, -, sublist⟩, counted, separated⟩ := raw_covers_plainForm query
  exact ⟨semicolon, sublist, counted, (separated semicolon).1⟩

end QueryGate.Gate
