import QueryGate.Proofs.Gate.Approval
import QueryGate.Proofs.Gate.Context
import QueryGate.Proofs.Gate.Plain
import QueryGate.Proofs.Pattern.Shape
import QueryGate.Proofs.Sql.Decomposition

/-!
# Layout and normal form

A query can be laid out in many ways, and its comments and white space are taken away before it is
compared with anything. What is left over is a query of its own. If a query is allowed, so is that,
because it keeps the words and loses what could hide them. The other way round holds only in part:
in a query without comments white space changes neither words nor quotes, but the scan of the raw
text passes over spaces only when it looks for what follows a word, so a line break in front of a
parenthesis hides a call that the normal form shows.

## Main results

* `allows_iff_of_plain` — when a text without comments and encoded literals is allowed
* `validate_plainForm` — an allowed query is still allowed in its normal form
* `validate_iff_validate_normalize` — what the layout of a query without comments can change
-/

namespace QueryGate.Gate

open Sql Text

variable {g : Gate} {v : Value} {query text : List Char} {tables : List (List Char)}

/-! ### Plain texts -/

/-- Without comments the text that is checked is the normal form of the text. -/
theorem plainForm_of_no_comment (comments : ∀ s ∈ split text, s.isComment = false) :
    plainForm (split text) = normalize text := by
  rw [plainForm, withoutComments, isReading_skipped.eq_of_no_comment comments]

/-- Without comments a server runs the text itself. -/
theorem executedForm_of_no_comment (comments : ∀ s ∈ split text, s.isComment = false) :
    executedForm (split text) = dropSemicolon (normalize text) := by
  rw [executedForm, asExecuted, isReading_executed.eq_of_no_comment comments]

/-- A plain text holds no blocked token if no word is blocked where it stands. -/
theorem findBlocked_eq_none_iff_of_plain (plain : Plain .code [] text) :
    findBlocked tables text = none ↔
      (∀ word ∈ words text, ¬ Forbidden tables word) ∧
        ∀ found ∈ wordsAt text, ¬ BlockedInContext found := by
  rw [findBlocked_eq_none_iff, noEncodedLiteral_iff (isChain_split text),
    and_iff_left (unmarked_of_plain plain).2, forall₂_and, words, List.forall_mem_map]

/-- In a plain text the final semicolon does not matter. -/
theorem findBlocked_dropSemicolon_of_plain (plain : Plain .code [] text) :
    findBlocked tables (dropSemicolon text) = none ↔ findBlocked tables text = none := by
  have shorter : Plain .code [] (dropSemicolon text) :=
    plain.of_isPrefix (isPrefix_dropSemicolon text)
  rw [findBlocked_eq_none_iff_of_plain shorter, findBlocked_eq_none_iff_of_plain plain,
    words_dropSemicolon, forall_wordsAt_dropSemicolon]

/-- A plain text is allowed if it is short enough, begins with `SELECT`, no separator, no further
`SELECT` and no forbidden word stands in it, and no word is blocked in context, neither as the text
stands nor in normal form; and if some pattern allows the normal form where the whitelist is on. -/
theorem allows_iff_of_plain (plain : Plain .code [] text) :
    Allows g text ↔
      g.limit.exceededBy? text.length = some false ∧ startsWithSelect (normalize text) = true ∧
        hasSeparator text = false ∧ countWord Keyword.select text ≤ 1 ∧
        (∀ word ∈ words text, ¬ Forbidden g.blockedTables word) ∧
        (∀ found ∈ wordsAt text, ¬ BlockedInContext found) ∧
        (∀ found ∈ wordsAt (normalize text), ¬ BlockedInContext found) ∧
        (g.whitelistEnabled = true → g.allows (dropSemicolon (normalize text)) = true) := by
  -- All checks look at the text or at its normal form, as there is nothing to leave out.
  have comments := (unmarked_of_plain plain).1
  have form := plainForm_of_no_comment comments
  have executed := executedForm_of_no_comment comments
  have raw : findBlocked g.blockedTables text = none ↔ _ := findBlocked_eq_none_iff_of_plain plain
  have normal : findBlocked g.blockedTables (dropSemicolon (normalize text)) = none ↔
      (∀ word ∈ words text, ¬ Forbidden g.blockedTables word) ∧
        ∀ found ∈ wordsAt (normalize text), ¬ BlockedInContext found := by
    have plainToo := plain_normalize_iff.mpr plain
    rw [findBlocked_dropSemicolon_of_plain plainToo, findBlocked_eq_none_iff_of_plain plainToo,
      words_normalize]
  constructor
  · rintro ⟨short, -, begins, -, separator, plainTokens, rawTokens, selects, listed⟩
    rw [form] at begins plainTokens
    rw [executed] at listed
    exact ⟨short, begins, separator, selects, (raw.mp rawTokens).1, (raw.mp rawTokens).2,
      (normal.mp plainTokens).2, listed⟩
  · rintro ⟨short, begins, separator, selects, forbidden, context, contextToo, listed⟩
    have semicolon : ';' ∉ dropSemicolon (normalize text) :=
      semicolon_notMem_dropSemicolon (by rwa [hasSeparator_normalize]) (trimEnd_normalize text)
    refine ⟨short, fun s member => segmentViolation?_of_not_comment (comments s member), ?_, ?_,
      separator, ?_, raw.mpr ⟨forbidden, context⟩, selects, ?_⟩
    · rwa [form]
    · rwa [form]
    · rw [form]
      exact normal.mpr ⟨forbidden, contextToo⟩
    · rwa [executed]

/-- The same for a text in normal form, the whitelist aside. -/
theorem allows_withoutWhitelist_iff_of_plain (plain : Plain .code [] text)
    (normal : normalize text = text) :
    Allows g.withoutWhitelist text ↔
      g.limit.exceededBy? text.length = some false ∧ startsWithSelect text = true ∧
        hasSeparator text = false ∧ countWord Keyword.select text ≤ 1 ∧
        (∀ word ∈ words text, ¬ Forbidden g.blockedTables word) ∧
        ∀ found ∈ wordsAt text, ¬ BlockedInContext found := by
  rw [allows_iff_of_plain plain, normal]
  constructor
  · rintro ⟨short, begins, separator, selects, forbidden, context, -, -⟩
    exact ⟨short, begins, separator, selects, forbidden, context⟩
  · rintro ⟨short, begins, separator, selects, forbidden, context⟩
    exact ⟨short, begins, separator, selects, forbidden, context, context, by simp⟩

/-! ### The normal form of an allowed query -/

namespace Allows

/-- An allowed query is plain without its comments. -/
theorem plain_plainForm (allowed : Allows g query) : Plain .code [] (plainForm (split query)) := by
  rw [plainForm, plain_normalize_iff]
  exact plain_withoutComments (unmarked_of_findBlocked allowed.raw_tokens)

theorem plain_of_no_comment (allowed : Allows g query)
    (comments : ∀ s ∈ split query, s.isComment = false) : Plain .code [] query := by
  have plain := plain_withoutComments (unmarked_of_findBlocked allowed.raw_tokens)
  rwa [withoutComments, isReading_skipped.eq_of_no_comment comments] at plain

/-- The normal form of an allowed query is allowed, if the whitelist allows it where it is used. -/
theorem plainForm_allowed (allowed : Allows g query)
    (listed : g.whitelistEnabled = true →
      g.allows (dropSemicolon (plainForm (split query))) = true) :
    Allows g (plainForm (split query)) := by
  have normal : normalize (plainForm (split query)) = plainForm (split query) :=
    normalize_normalize _
  have plain := allowed.plain_plainForm
  -- The scan left out a final semicolon, which does not matter.
  have tokens := (findBlocked_dropSemicolon_of_plain plain).mp allowed.plain_tokens
  obtain ⟨forbidden, context⟩ := (findBlocked_eq_none_iff_of_plain plain).mp tokens
  rw [allows_iff_of_plain plain, normal]
  refine ⟨?_, allowed.begins, ?_, ?_, forbidden, context, context, listed⟩
  · apply Limit.exceededBy?_of_le _ allowed.short_enough
    exact (length_normalize_le _).trans (length_withoutComments_le query)
  · rw [plainForm, hasSeparator_normalize]
    exact hasSeparator_withoutComments allowed.raw_statement
  · rw [plainForm, countWord_normalize]
    exact (countWord_withoutComments_le _ query).trans allowed.selects

end Allows

/-- Without executable comments a server runs the text without its comments. -/
theorem executedForm_eq_dropSemicolon_plainForm
    (skipped : ∀ s ∈ split query, s.kind ≠ .executableComment) :
    executedForm (split query) = dropSemicolon (plainForm (split query)) := by
  have blank : ∀ s ∈ split query, isBlank s.body = true := by
    intro s member
    cases s with
    | executableComment mark version body closed => exact absurd rfl (skipped _ member)
    | _ => rfl
  rw [executedForm, normalize_asExecuted_of_blank blank, plainForm]

/-- An allowed query without executable comments, or without a whitelist, is allowed in its normal
form too; and that has no comments, is its own normal form and is not longer than the query. -/
theorem validate_plainForm (text : textOf v = .ok query) (valid : g.validate v = .ok ())
    (same : (∀ s ∈ split query, s.kind ≠ .executableComment) ∨ g.whitelistEnabled = false) :
    let normal := plainForm (split query)
    (∀ s ∈ split normal, s.isComment = false) ∧ plainForm (split normal) = normal ∧
      normal.length ≤ query.length ∧ g.validate (.text normal) = .ok () := by
  intro normal
  have allowed := allows_of_validate text valid
  have comments := (unmarked_of_plain allowed.plain_plainForm).1
  refine ⟨comments, ?_, ?_, ?_⟩
  · rw [plainForm_of_no_comment comments]
    exact normalize_normalize _
  · exact (length_normalize_le _).trans (length_withoutComments_le query)
  · rw [validate_text_eq_ok_iff_allows]
    apply allowed.plainForm_allowed
    intro enabled
    rcases same with skipped | off
    · rw [← executedForm_eq_dropSemicolon_plainForm skipped]
      exact allowed.whitelisted enabled
    · rw [off] at enabled
      cases enabled

/-- Comments of both sorts, a line break and a tab. -/
theorem validate_plainForm_of_comments :
    let query := "SELECT id, -- the key\n  title\tFROM posts /* all of them */ ;".toList
    (textOf (.text query) = .ok query ∧ standard.validate (.text query) = .ok () ∧
      ∀ s ∈ split query, s.kind ≠ .executableComment) ∧
    plainForm (split query) = "SELECT id, title FROM posts ;".toList ∧
    standard.validate (.text "SELECT id, title FROM posts ;".toList) = .ok () := by
  intro query
  have valid : standard.validate (.text query) = .ok () := by
    rw [validate_text_eq_ok_iff, standard_eq]
    exact ⟨rfl, by decide +kernel⟩
  have skipped : ∀ s ∈ split query, s.kind ≠ .executableComment := by decide +kernel
  have form : plainForm (split query) = "SELECT id, title FROM posts ;".toList := by
    decide +kernel
  obtain ⟨-, -, -, validToo⟩ := validate_plainForm rfl valid (.inl skipped)
  rw [form] at validToo
  exact ⟨⟨rfl, valid, skipped⟩, form, validToo⟩

/-! ### White space -/

/-- What the normal form shows behind a word. -/
theorem forall_wordsAt_normalize {p : WordAt → Prop} :
    (∀ found ∈ wordsAt (normalize text), p found) ↔
      ∀ found ∈ wordsAt text, p (found.mapAfter fun after => trimEnd (collapse after)) := by
  rw [wordsAt_normalize, List.forall_mem_map]

/-- A word that is blocked because a parenthesis or a dot follows it is blocked in the normal form
too. -/
theorem noContext_of_normalize
    (clean : ∀ found ∈ wordsAt (normalize text), ¬ BlockedInContext found) :
    ∀ found ∈ wordsAt text, ¬ CallsEncoding found ∧ ¬ QualifiesBySchema found := by
  intro found member
  have shown {c : Char} (visible : isSpace c = false) (first : firstVisible found.after = some c) :
      firstVisible (trimEnd (collapse found.after)) = some c :=
    (firstVisible_trimEnd visible).mpr (firstVisible_collapse visible first)
  obtain ⟨encoding, -, schema⟩ :=
    not_blockedInContext_iff.mp (forall_wordsAt_normalize.mp clean found member)
  constructor
  · rintro ⟨name, call⟩
    exact encoding ⟨name, shown (by decide) call⟩
  · rintro ⟨name, dot⟩
    exact schema ⟨name, shown (by decide) dot⟩

/-- Where all white space is spaces, the normal form shows the same behind a word. -/
theorem uncalledFunction_normalize_iff (spaces : ∀ c ∈ text, isSpace c = true → c = ' ')
    {found : WordAt} (member : found ∈ wordsAt text) :
    UncalledFunction (found.mapAfter fun after => trimEnd (collapse after)) ↔
      UncalledFunction found := by
  have same : firstVisible (trimEnd (collapse found.after)) = some '(' ↔
      firstVisible found.after = some '(' := by
    rw [firstVisible_trimEnd (by decide), firstVisible_collapse_of_spaces fun c inAfter =>
      spaces c ((isSuffix_after member).subset inAfter)]
  exact and_congr_right' (not_congr same)

/-- A query without comments is allowed if it is short enough, its normal form is allowed, and its
functions are called as the raw text stands. -/
theorem allows_iff_allows_normalize (comments : ∀ s ∈ split query, s.isComment = false) :
    Allows g query ↔ g.limit.exceededBy? query.length = some false ∧
      Allows g (normalize query) ∧ ∀ found ∈ wordsAt query, ¬ UncalledFunction found := by
  by_cases plain : Plain .code [] query
  · -- Both texts are plain, and most of what is asked of one is asked of the other.
    rw [allows_iff_of_plain plain, allows_iff_of_plain (plain_normalize_iff.mpr plain),
      normalize_normalize, hasSeparator_normalize, countWord_normalize, words_normalize]
    constructor
    · rintro ⟨short, begins, separator, selects, forbidden, context, contextToo, listed⟩
      have shorter := Limit.exceededBy?_of_le (length_normalize_le query) short
      refine ⟨short, ⟨shorter, begins, separator, selects, forbidden, contextToo, contextToo,
        listed⟩, ?_⟩
      intro found member
      exact (not_blockedInContext_iff.mp (context found member)).2.1
    · rintro ⟨short, ⟨-, begins, separator, selects, forbidden, contextToo, -, listed⟩, called⟩
      refine ⟨short, begins, separator, selects, forbidden, ?_, contextToo, listed⟩
      intro found member
      obtain ⟨encoding, schema⟩ := noContext_of_normalize contextToo found member
      exact not_blockedInContext_iff.mpr ⟨encoding, called found member, schema⟩
  · -- Then an encoded literal stands in the query and in its normal form alike.
    constructor
    · intro allowed
      exact absurd (allowed.plain_of_no_comment comments) plain
    · rintro ⟨-, allowed, -⟩
      have normal := allowed.plain_of_no_comment (not_comment_normalize comments)
      exact absurd (plain_normalize_iff.mp normal) plain

/-- Where all white space is spaces, an allowed normal form shows that every function is called. -/
theorem Allows.called_of_spaces (allowed : Allows g (normalize query))
    (spaces : ∀ c ∈ query, isSpace c = true → c = ' ') :
    ∀ found ∈ wordsAt query, ¬ UncalledFunction found := by
  intro found member uncalled
  have context := (findBlocked_eq_none_iff.mp allowed.raw_tokens).1
  have here := (forall_wordsAt_normalize.mp context found member).2
  apply (not_blockedInContext_iff.mp here).2.1
  exact (uncalledFunction_normalize_iff spaces member).mpr uncalled

/-- A query without comments is allowed exactly if it is short enough, its normal form is allowed,
and every statement in it that is also a function is called, with nothing between its name and the
parenthesis but spaces and the quotes of names. Where all white space is spaces, its normal form
shows that already. -/
theorem validate_iff_validate_normalize (comments : ∀ s ∈ split query, s.isComment = false) :
    (g.validate (.text query) = .ok () ↔
      g.limit.exceededBy? query.length = some false ∧
        g.validate (.text (normalize query)) = .ok () ∧
        ∀ found ∈ wordsAt query, ¬ UncalledFunction found) ∧
    ((∀ c ∈ query, isSpace c = true → c = ' ') →
      (g.validate (.text query) = .ok () ↔
        g.limit.exceededBy? query.length = some false ∧
          g.validate (.text (normalize query)) = .ok ())) := by
  simp only [validate_text_eq_ok_iff_allows]
  have whole : Allows g query ↔ _ := allows_iff_allows_normalize comments
  refine ⟨whole, ?_⟩
  intro spaces
  rw [whole, ← and_assoc, and_iff_left_iff_imp]
  intro allowed
  exact allowed.2.called_of_spaces spaces

/-- Line breaks and tabs wherever they do not separate a function from its parenthesis. -/
theorem validate_iff_validate_normalize_of_call :
    let g := standard.withoutWhitelist
    let query := "SELECT\n  REPLACE (title,\t'a', 'b')\nFROM posts".toList
    (∀ s ∈ split query, s.isComment = false) ∧ g.limit = .unlimited ∧
      g.validate (.text (normalize query)) = .ok () ∧
      (∀ found ∈ wordsAt query, ¬ UncalledFunction found) ∧ g.validate (.text query) = .ok () := by
  intro g query
  have comments : ∀ s ∈ split query, s.isComment = false := by decide +kernel
  have normal : g.validate (.text (normalize query)) = .ok () :=
    validate_text_eq_ok_iff.mpr ⟨rfl, by decide +kernel⟩
  have called : ∀ found ∈ wordsAt query, ¬ UncalledFunction found := by decide +kernel
  exact ⟨comments, rfl, normal, called,
    (validate_iff_validate_normalize comments).1.mpr ⟨rfl, normal, called⟩⟩

/-- A line break between a function and its parenthesis is enough for a rejection. -/
theorem layout_hides_call :
    (¬ ∀ (g : Gate) (query : List Char), g.limit = .unlimited →
      (∀ s ∈ split query, s.isComment = false) →
      g.validate (.text (normalize query)) = .ok () → g.validate (.text query) = .ok ()) ∧
    let query := "SELECT REPLACE\n(title, 'a', 'b') FROM posts".toList
    standard.withoutWhitelist.violation? query = some (.blocked "REPLACE".toList) ∧
      standard.withoutWhitelist.validate (.text (normalize query)) = .ok () := by
  have rejected : standard.withoutWhitelist.violation?
      "SELECT REPLACE\n(title, 'a', 'b') FROM posts".toList = some (.blocked "REPLACE".toList) := by
    decide +kernel
  have normal : standard.withoutWhitelist.validate
      (.text (normalize "SELECT REPLACE\n(title, 'a', 'b') FROM posts".toList)) = .ok () :=
    validate_text_eq_ok_iff.mpr ⟨rfl, by decide +kernel⟩
  refine ⟨fun all => ?_, rejected, normal⟩
  have comments : ∀ s ∈ split "SELECT REPLACE\n(title, 'a', 'b') FROM posts".toList,
      s.isComment = false := by decide +kernel
  have approved := all standard.withoutWhitelist _ rfl comments normal
  rw [validate_text_eq_ok_iff, rejected] at approved
  cases approved.2

end QueryGate.Gate
