import QueryGate.Proofs.Gate.Approval
import QueryGate.Proofs.Gate.Scan
import QueryGate.Proofs.Gate.Select
import QueryGate.Proofs.Sql.Readings

/-!
# An allowed query is one query in every reading

A server may skip the comments of a query, run the executable ones, or read the raw text in a way
of its own. The checks look at the raw text, at the text without comments and at each executable
body, and never at the text that a server runs. Still each of the three texts is a single query
without forbidden words: words are neither cut nor joined, and a final semicolon stays final.

## Main definitions

* `SingleQuery` — a text is one `SELECT` statement without forbidden words

## Main results

* `singleQuery_of_validate` — all readings of an allowed query are single queries
-/

namespace QueryGate.Gate

open Sql Text

variable {g : Gate} {query text : List Char} {v : Value}

/-- A text is one `SELECT` statement, given the names of the blocked tables in upper case: no word
is forbidden, exactly one is `SELECT`, and nothing but white space follows the only semicolon. -/
structure SingleQuery (tables : List (List Char)) (text : List Char) : Prop where
  not_forbidden : ∀ word ∈ words text, ¬ Forbidden tables word
  one_select : countWord Keyword.select text = 1
  one_semicolon : text.count ';' ≤ 1
  nothing_after : ∀ before after, text = before ++ ';' :: after → isBlank after = true

theorem SingleQuery.of_hasSeparator {tables : List (List Char)}
    (words : ∀ word ∈ words text, ¬ Forbidden tables word)
    (select : countWord Keyword.select text = 1) (separator : hasSeparator text = false) :
    SingleQuery tables text :=
  ⟨words, select, count_semicolon_le_one separator, hasSeparator_eq_false_iff.mp separator⟩

namespace Allows

theorem beginsWithSelect (allowed : Allows g query) :
    BeginsWithSelect (withoutComments (split query)) :=
  beginsWithSelect_of_normalize allowed.begins

theorem countWord_select_withoutComments (allowed : Allows g query) :
    countWord Keyword.select (withoutComments (split query)) = 1 := by
  have present := countWord_pos_of_beginsWithSelect allowed.beginsWithSelect
  have fewer := countWord_withoutComments_le Keyword.select query
  have single := allowed.selects
  omega

theorem countWord_select (allowed : Allows g query) : countWord Keyword.select query = 1 := by
  have fewer := countWord_withoutComments_le Keyword.select query
  have first := allowed.countWord_select_withoutComments
  have single := allowed.selects
  omega

theorem not_forbidden (allowed : Allows g query) :
    ∀ word ∈ words query, ¬ Forbidden g.blockedTables word :=
  not_forbidden_of_findBlocked allowed.raw_tokens

theorem not_forbidden_asExecuted (allowed : Allows g query) :
    ∀ word ∈ words (asExecuted (split query)), ¬ Forbidden g.blockedTables word := by
  intro word member
  rw [words_asExecuted] at member
  obtain ⟨s, inside, found⟩ := List.mem_flatMap.mp member
  -- The word stands in a body that was scanned by itself, or outside of comments.
  split at found
  · exact not_forbidden_of_findBlocked (allowed.body_clean inside).1 word found
  · apply allowed.not_forbidden word
    rw [words_eq_flatMap_split]
    exact List.mem_flatMap.mpr ⟨s, inside, found⟩

theorem singleQuery (allowed : Allows g query) : SingleQuery g.blockedTables query :=
  .of_hasSeparator allowed.not_forbidden allowed.countWord_select allowed.raw_statement

theorem singleQuery_withoutComments (allowed : Allows g query) :
    SingleQuery g.blockedTables (withoutComments (split query)) := by
  refine .of_hasSeparator (fun word member => ?_) allowed.countWord_select_withoutComments
    (hasSeparator_withoutComments allowed.raw_statement)
  exact allowed.not_forbidden word ((words_withoutComments_sublist query).subset member)

theorem singleQuery_asExecuted (allowed : Allows g query) :
    SingleQuery g.blockedTables (asExecuted (split query)) := by
  refine .of_hasSeparator allowed.not_forbidden_asExecuted ?_
    (hasSeparator_asExecuted (fun s member => (allowed.body_clean member).2.2)
      allowed.raw_statement)
  rw [countWord_asExecuted fun s member => (allowed.body_clean member).2.1]
  exact allowed.countWord_select_withoutComments

end Allows

/-- Every reading of an allowed query is a single query: the raw text, the text without comments,
which begins with `SELECT`, and the text that a server of the MySQL family runs. -/
theorem singleQuery_of_validate (text : textOf v = .ok query) (valid : g.validate v = .ok ()) :
    SingleQuery g.blockedTables query ∧
      SingleQuery g.blockedTables (withoutComments (split query)) ∧
      SingleQuery g.blockedTables (asExecuted (split query)) ∧
      BeginsWithSelect (withoutComments (split query)) := by
  have allowed := allows_of_validate text valid
  exact ⟨allowed.singleQuery, allowed.singleQuery_withoutComments, allowed.singleQuery_asExecuted,
    allowed.beginsWithSelect⟩

/-- A query with a comment of each sort, one of them run by servers, and a comment mark in a
literal. -/
theorem singleQuery_of_commented_query :
    let g : Gate := { standard.withoutWhitelist with blockedTables := ["USERS".toList] }
    let query := "SELECT id /*!50000 , title*/ FROM posts WHERE a = '/*! b' -- all\n ; ".toList
    (textOf (.text query) = .ok query ∧ g.validate (.text query) = .ok ()) ∧
      SingleQuery g.blockedTables query ∧
      SingleQuery g.blockedTables (withoutComments (split query)) ∧
      SingleQuery g.blockedTables (asExecuted (split query)) ∧
      BeginsWithSelect (withoutComments (split query)) := by
  intro g query
  have valid : g.validate (.text query) = .ok () :=
    validate_text_eq_ok_iff.mpr ⟨rfl, by decide +kernel⟩
  exact ⟨⟨rfl, valid⟩, singleQuery_of_validate rfl valid⟩

end QueryGate.Gate
