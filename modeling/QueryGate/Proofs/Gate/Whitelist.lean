import QueryGate.Proofs.Gate.SingleQuery
import QueryGate.Proofs.Pattern.Shape

/-!
# What the whitelist says about the readings of a query

The whitelist is applied to the text that a server of the MySQL family runs. A server that skips the
executable comments runs another text. It has no words but those of the text that was compared, in
the same order, and it is the same text where the bodies of these comments are blank; where they are
not, no pattern need allow it.

## Main results

* `whitelist_of_validate` — what an allowed query has to do with the whitelist
-/

namespace QueryGate.Gate

open Sql Text

variable {g : Gate} {v : Value} {query : List Char}

/-- With the whitelist in use, some pattern allows the text that a server of the MySQL family runs
of an allowed query. What is left of it for a server that skips all comments has no other words, and
it is the same text if nothing but white space stands in executable comments. -/
theorem whitelist_of_validate (text : textOf v = .ok query) (valid : g.validate v = .ok ())
    (enabled : g.whitelistEnabled = true) :
    g.allows (executedForm (split query)) = true ∧
      (words (dropSemicolon (plainForm (split query)))).Sublist
        (words (executedForm (split query))) ∧
      ((∀ s ∈ split query, isBlank s.body = true) →
        dropSemicolon (plainForm (split query)) = executedForm (split query) ∧
          g.allows (dropSemicolon (plainForm (split query))) = true) := by
  have listed := (allows_of_validate text valid).whitelisted enabled
  refine ⟨listed, ?_, fun blank => ?_⟩
  · rw [executedForm, plainForm, words_dropSemicolon, words_dropSemicolon, words_normalize,
      words_normalize]
    exact words_withoutComments_sublist_asExecuted query
  · have same : dropSemicolon (plainForm (split query)) = executedForm (split query) := by
      rw [executedForm, plainForm, normalize_asExecuted_of_blank blank]
    exact ⟨same, same ▸ listed⟩

/-- The default patterns, and a query with a comment that is run but blank. -/
theorem whitelist_of_blank_comment :
    let query := "SELECT title FROM posts /*!50000 */ -- all\n ;".toList
    (textOf (.text query) = .ok query ∧ standard.validate (.text query) = .ok () ∧
      standard.whitelistEnabled = true ∧ ∀ s ∈ split query, isBlank s.body = true) ∧
    standard.allows (executedForm (split query)) = true ∧
    (words (dropSemicolon (plainForm (split query)))).Sublist
      (words (executedForm (split query))) ∧
    dropSemicolon (plainForm (split query)) = executedForm (split query) ∧
    standard.allows (dropSemicolon (plainForm (split query))) = true := by
  intro query
  have valid : standard.validate (.text query) = .ok () := by
    rw [validate_text_eq_ok_iff, standard_eq]
    exact ⟨rfl, by decide +kernel⟩
  have blank : ∀ s ∈ split query, isBlank s.body = true := by decide +kernel
  obtain ⟨listed, kept, plain⟩ := whitelist_of_validate rfl valid rfl
  exact ⟨⟨rfl, valid, rfl, blank⟩, listed, kept, plain blank⟩

/-- What an executable comment holds can be what makes a pattern allow the query: a server that
skips the comment runs a text that no pattern allows. -/
theorem plainForm_not_allowed :
    ¬ ∀ (g : Gate) (v : Value) (query : List Char),
      textOf v = .ok query → g.validate v = .ok () → g.whitelistEnabled = true →
        g.allows (dropSemicolon (plainForm (split query))) = true ∧
          g.allows (executedForm (split query)) = true := by
  intro all
  have valid : standard.validate (.text "SELECT * FROM /*!posts*/".toList) = .ok () := by
    rw [validate_text_eq_ok_iff, standard_eq]
    exact ⟨rfl, by decide +kernel⟩
  have plain : standard.allows (dropSemicolon (plainForm
      (split "SELECT * FROM /*!posts*/".toList))) = false := by
    rw [standard_eq]
    decide +kernel
  rw [(all _ _ _ rfl valid rfl).1] at plain
  cases plain

end QueryGate.Gate
