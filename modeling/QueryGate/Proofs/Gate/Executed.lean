import QueryGate.Proofs.Gate.Layout
import QueryGate.Proofs.Gate.SingleQuery

/-!
# The text that a server runs, as a query

The body of an executable comment is checked by itself and the rest of the query without it. This
settles most of what the whole would be checked for: its length, its words, its separators. What is
left depends on how a body meets the text around it. If each body is a piece of code and closed
quotes, what is left comes down to the first word and to what follows a few words; otherwise a quote
or a comment that begins in a body can turn the text behind it into something else.

## Main definitions

* `SelfContained` — a text that the lexer reads as code and closed quotes

## Main results

* `executed_of_validate` — what an allowed query is like for a server that runs its comments
-/

namespace QueryGate.Gate

open Sql Text

variable {g : Gate} {v : Value} {query text : List Char}

/-- A text that the lexer reads as code and closed quotes. -/
def SelfContained (text : List Char) : Prop :=
  ∀ s ∈ split text, s.isComment = false ∧ s.isTerminated = true

instance (text : List Char) : Decidable (SelfContained text) :=
  inferInstanceAs (Decidable (∀ s ∈ split text, _))

/-- White space is self-contained. -/
theorem selfContained_of_isBlank (blank : isBlank text = true) : SelfContained text := by
  rw [SelfContained]
  induction text using split_induction with
  | nil => simp
  | segment text s rest found ih =>
    cases text with
    | nil => cases found
    | cons c text =>
      have space : isSpace c = true := List.all_eq_true.mp blank c List.mem_cons_self
      rw [segmentAt?_eq_none_iff_not_opensComment.mpr
        ⟨ofChar?_of_isSpace space, not_opensComment_of_isSpace space⟩] at found
      cases found
  | code c rest unopened ih =>
    rw [isBlank, List.all_cons, Bool.and_eq_true] at blank
    exact (forall_mem_consCode_iff fun _ => ⟨rfl, rfl⟩).mpr (ih blank.2)

namespace Allows

/-- Where bodies are self-contained, a server runs a plain text. -/
theorem plain_executed (allowed : Allows g query)
    (bodies : ∀ s ∈ split query, SelfContained s.body) :
    Plain .code [] (normalize (asExecuted (split query))) := by
  -- Both the query and each body have been scanned for encoded literals, each by itself.
  have plainBodies : ∀ s ∈ split query, PlainBody s := by
    intro s member more plain
    apply plain_append_of_no_comment (fun r inside => (bodies s member r inside).1)
      (fun r inside => (bodies s member r inside).2) _ plain
    exact unmarked_of_findBlocked (allowed.body_clean member).1
  have plain := plain_asExecuted plainBodies (.inl rfl) (unmarked_of_findBlocked allowed.raw_tokens)
  rw [List.append_nil] at plain
  exact plain_normalize_iff.mpr plain

theorem called_executed (allowed : Allows g query) :
    ∀ found ∈ wordsAt (normalize (asExecuted (split query))), ¬ UncalledFunction found := by
  rintro found member ⟨name, uncalled⟩
  exact uncalled (called_normalize (called_asExecuted allowed.raw_tokens
    fun s inside => (allowed.body_clean inside).1) found member name)

theorem short_executed (allowed : Allows g query) :
    g.limit.exceededBy? (normalize (asExecuted (split query))).length = some false :=
  Limit.exceededBy?_of_le ((length_normalize_le _).trans (length_asExecuted_le query))
    allowed.short_enough

theorem singleQuery_executed (allowed : Allows g query) :
    SingleQuery g.blockedTables (normalize (asExecuted (split query))) := by
  have whole := allowed.singleQuery_asExecuted
  refine .of_hasSeparator ?_ ?_ ?_
  · rw [words_normalize]
    exact whole.not_forbidden
  · rw [countWord_normalize]
    exact whole.one_select
  · rw [hasSeparator_normalize, hasSeparator_eq_false_iff]
    exact whole.nothing_after

/-- Where bodies are self-contained, what is left to ask is how the text begins and what follows
encoding functions and system schemas. -/
theorem executed_allowed_iff (allowed : Allows g query)
    (bodies : ∀ s ∈ split query, SelfContained s.body) :
    Allows g.withoutWhitelist (normalize (asExecuted (split query))) ↔
      startsWithSelect (normalize (asExecuted (split query))) = true ∧
        ∀ found ∈ wordsAt (normalize (asExecuted (split query))),
          ¬ CallsEncoding found ∧ ¬ QualifiesBySchema found := by
  have single := allowed.singleQuery_executed
  have separator := hasSeparator_eq_false_iff.mpr single.nothing_after
  -- What is asked of words and separators is known from the query itself.
  rw [allows_withoutWhitelist_iff_of_plain (allowed.plain_executed bodies) (normalize_normalize _)]
  constructor
  · rintro ⟨-, begins, -, -, -, context⟩
    refine ⟨begins, fun found member => ?_⟩
    obtain ⟨encoding, -, schema⟩ := not_blockedInContext_iff.mp (context found member)
    exact ⟨encoding, schema⟩
  · rintro ⟨begins, context⟩
    refine ⟨allowed.short_executed, begins, separator, single.one_select.le, single.not_forbidden,
      fun found member => ?_⟩
    obtain ⟨encoding, schema⟩ := context found member
    exact not_blockedInContext_iff.mpr ⟨encoding, allowed.called_executed found member, schema⟩

/-- Where bodies are blank, the query itself has been checked for that. -/
theorem executed_allowed_of_blank (allowed : Allows g query)
    (blank : ∀ s ∈ split query, isBlank s.body = true) :
    Allows g.withoutWhitelist (normalize (asExecuted (split query))) := by
  have same : normalize (asExecuted (split query)) = plainForm (split query) :=
    normalize_asExecuted_of_blank blank
  have context : ∀ found ∈ wordsAt (plainForm (split query)), ¬ BlockedInContext found := by
    rw [← forall_wordsAt_dropSemicolon]
    intro found member
    exact ((findBlocked_eq_none_iff.mp allowed.plain_tokens).1 found member).2
  rw [allowed.executed_allowed_iff fun s member => selfContained_of_isBlank (blank s member), same]
  refine ⟨allowed.begins, fun found member => ?_⟩
  obtain ⟨encoding, -, schema⟩ := not_blockedInContext_iff.mp (context found member)
  exact ⟨encoding, schema⟩

end Allows

/-- What a server of the MySQL family runs of an allowed query is no longer than the limit and is a
single query in which every statement that is also a function is called. If the bodies of comments
are self-contained, it is itself allowed, the whitelist aside, exactly if it begins with `SELECT`,
calls no encoding function and qualifies no name by a system schema; and it is if they are blank. -/
theorem executed_of_validate (text : textOf v = .ok query) (valid : g.validate v = .ok ()) :
    let executed := normalize (asExecuted (split query))
    g.limit.exceededBy? executed.length = some false ∧
      SingleQuery g.blockedTables executed ∧
      (∀ found ∈ wordsAt executed, ¬ UncalledFunction found) ∧
      ((∀ s ∈ split query, SelfContained s.body) →
        (g.withoutWhitelist.validate (.text executed) = .ok () ↔
          startsWithSelect executed = true ∧
            ∀ found ∈ wordsAt executed, ¬ CallsEncoding found ∧ ¬ QualifiesBySchema found)) ∧
      ((∀ s ∈ split query, isBlank s.body = true) →
        g.withoutWhitelist.validate (.text executed) = .ok ()) := by
  intro executed
  have allowed := allows_of_validate text valid
  rw [validate_text_eq_ok_iff_allows]
  exact ⟨allowed.short_executed, allowed.singleQuery_executed, allowed.called_executed,
    allowed.executed_allowed_iff, allowed.executed_allowed_of_blank⟩

/-- A self-contained body that brings in a word that is blocked unless called. -/
theorem executed_of_called_function :
    let g := standard.withoutWhitelist
    let query := "SELECT id /*!50000 , REPLACE(title, 'a', 'b')*/ FROM posts -- all\n;".toList
    let executed := normalize (asExecuted (split query))
    (textOf (.text query) = .ok query ∧ g.validate (.text query) = .ok () ∧
      ∀ s ∈ split query, SelfContained s.body) ∧
    g.limit.exceededBy? executed.length = some false ∧
    SingleQuery g.blockedTables executed ∧
    (∀ found ∈ wordsAt executed, ¬ UncalledFunction found) ∧
    (startsWithSelect executed = true ∧
      ∀ found ∈ wordsAt executed, ¬ CallsEncoding found ∧ ¬ QualifiesBySchema found) ∧
    g.withoutWhitelist.validate (.text executed) = .ok () := by
  intro g query executed
  have valid : g.validate (.text query) = .ok () :=
    validate_text_eq_ok_iff.mpr ⟨rfl, by decide +kernel⟩
  have bodies : ∀ s ∈ split query, SelfContained s.body := by decide +kernel
  have left : startsWithSelect executed = true ∧
      ∀ found ∈ wordsAt executed, ¬ CallsEncoding found ∧ ¬ QualifiesBySchema found := by
    decide +kernel
  obtain ⟨short, single, called, approved, -⟩ := executed_of_validate rfl valid
  exact ⟨⟨rfl, valid, bodies⟩, short, single, called, left, (approved bodies).mpr left⟩

/-- A body can bring in a word before `SELECT`, or a call that a tab hides from the scan of the
body, or the beginning of a comment; each of the three is seen only in the text that a server
runs. -/
theorem executed_not_allowed :
    ¬ (∀ (g : Gate) (v : Value) (query : List Char),
      textOf v = .ok query → g.validate v = .ok () →
        g.withoutWhitelist.validate (.text (normalize (asExecuted (split query)))) = .ok ()) ∧
    ∀ query ∈ ["/*!EXPLAIN*/ SELECT * FROM posts".toList,
        "SELECT /*!CHAR\t(65)*/ FROM posts".toList, "SELECT 1 /*!/**/".toList],
      standard.withoutWhitelist.validate (.text query) = .ok () ∧
        standard.withoutWhitelist.validate
          (.text (normalize (asExecuted (split query)))) ≠ .ok () := by
  have both : ∀ query ∈ ["/*!EXPLAIN*/ SELECT * FROM posts".toList,
      "SELECT /*!CHAR\t(65)*/ FROM posts".toList, "SELECT 1 /*!/**/".toList],
      standard.withoutWhitelist.validate (.text query) = .ok () ∧
        standard.withoutWhitelist.validate
          (.text (normalize (asExecuted (split query)))) ≠ .ok () := by
    simp only [ne_eq, validate_text_eq_ok_iff]
    decide +kernel
  refine ⟨fun all => ?_, both⟩
  obtain ⟨valid, invalid⟩ := both "/*!EXPLAIN*/ SELECT * FROM posts".toList List.mem_cons_self
  have executed := all standard.withoutWhitelist _ _ rfl valid
  rw [withoutWhitelist_withoutWhitelist] at executed
  exact invalid executed

end QueryGate.Gate
