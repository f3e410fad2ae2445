import QueryGate.Proofs.Gate.Context
import QueryGate.Proofs.Gate.LetterCase
import QueryGate.Proofs.Sql.Decomposition

/-!
# Comments without words

A comment is part of the raw text in which words, semicolons and what follows a word are looked for.
What it contributes to these searches is its words, its semicolons and its first character. So a
comment without words and semicolons, closed and not executable, can be exchanged for any other of
its sort, whatever else stands in it: quotes and the marks that begin comments mean nothing there.

## Main definitions

* `Wordless` — a closed comment that no server runs, without words and semicolons
* `Interchangeable` — two segments that are the same or two such comments of one sort

## Main results

* `findBlockedInSegments_of_interchangeable` — the scan with such comments exchanged
* `violation?_of_interchangeable` — the first violation with such comments exchanged
* `verdict_of_wordless_comments` — the verdict does not depend on them
-/

namespace QueryGate.Gate

open Sql Text Segment

variable {g : Gate} {v v' : Value} {query query' : List Char} {tables : List (List Char)}
  {s s' : Segment} {segments segments' : List Segment} {c : Char}

/-- A comment that ends where it should and that no server runs, in which no word and no semicolon
stands. -/
structure Wordless (s : Segment) : Prop where
  sort : s.kind = .lineComment ∨ s.kind = .blockComment
  closed : s.isTerminated = true
  no_word : ∀ c ∈ s.text, isWordChar c = false
  no_semicolon : ';' ∉ s.text

/-- Two segments are the same, or wordless comments of one sort. -/
inductive Interchangeable : Segment → Segment → Prop
  | same (s : Segment) : Interchangeable s s
  | comments {s s' : Segment} (sort : s.kind = s'.kind) (wordless : Wordless s)
      (wordless' : Wordless s') : Interchangeable s s'

namespace Wordless

theorem isComment (wordless : Wordless s) : s.isComment = true := by
  rcases wordless.sort with line | block
  · cases s <;> simp_all [Segment.kind, Segment.isComment]
  · cases s <;> simp_all [Segment.kind, Segment.isComment]

theorem wordsAt_text (wordless : Wordless s) : wordsAt s.text = [] :=
  wordsAt_eq_nil wordless.no_word

theorem segmentViolation? (wordless : Wordless s) : g.segmentViolation? s = none := by
  have closed := wordless.closed
  rcases wordless.sort with line | block
  · cases s <;> simp_all [Segment.kind, Gate.segmentViolation?]
  · cases s <;> simp_all [Segment.kind, Gate.segmentViolation?]

theorem skipped (wordless : Wordless s) : s.skipped = [' '] := by
  rw [Segment.skipped, if_pos wordless.isComment]

theorem executed (wordless : Wordless s) : s.executed = [' '] := by
  have skipped := wordless.skipped
  rcases wordless.sort with line | block
  · cases s <;> simp_all [Segment.kind, Segment.executed]
  · cases s <;> simp_all [Segment.kind, Segment.executed]

end Wordless

/-! ### One segment -/

namespace Interchangeable

theorem skipped_eq (pair : Interchangeable s s') : s.skipped = s'.skipped := by
  cases pair with
  | same => rfl
  | comments sort wordless wordless' => rw [wordless.skipped, wordless'.skipped]

theorem executed_eq (pair : Interchangeable s s') : s.executed = s'.executed := by
  cases pair with
  | same => rfl
  | comments sort wordless wordless' => rw [wordless.executed, wordless'.executed]

theorem segmentViolation?_eq (pair : Interchangeable s s') :
    g.segmentViolation? s = g.segmentViolation? s' := by
  cases pair with
  | same => rfl
  | comments sort wordless wordless' => rw [wordless.segmentViolation?, wordless'.segmentViolation?]

theorem words_text_eq (pair : Interchangeable s s') : words s.text = words s'.text := by
  cases pair with
  | same => rfl
  | comments sort wordless wordless' =>
    rw [words, wordless.wordsAt_text, words, wordless'.wordsAt_text]

end Interchangeable

/-! ### All segments -/

section Segments

variable (pairs : List.Forall₂ Interchangeable segments segments')
include pairs

/-- What is put together from equal contributions is equal. -/
theorem flatMap_of_interchangeable {α : Type*} {f : Segment → List α}
    (same : ∀ {s s'}, Interchangeable s s' → f s = f s') :
    segments.flatMap f = segments'.flatMap f := by
  induction pairs with
  | nil => rfl
  | cons pair _ ih => rw [List.flatMap_cons, List.flatMap_cons, same pair, ih]

theorem commentViolation?_of_interchangeable :
    g.commentViolation? segments = g.commentViolation? segments' := by
  rw [commentViolation?, commentViolation?]
  induction pairs with
  | nil => rfl
  | cons pair _ ih => rw [List.findSome?_cons, List.findSome?_cons, pair.segmentViolation?_eq, ih]

theorem isBlank_of_interchangeable :
    isBlank (textOfAll segments) = isBlank (textOfAll segments') := by
  induction pairs with
  | nil => rfl
  | cons pair _ ih =>
    rw [textOfAll_cons, textOfAll_cons, isBlank_append, isBlank_append, ih]
    cases pair with
    | same => rfl
    | comments sort wordless wordless' =>
      rw [not_isBlank_of_comment wordless.isComment, not_isBlank_of_comment wordless'.isComment]

/-- Comments without semicolons are themselves no separators, and count as something behind one. -/
theorem hasSeparator_of_interchangeable :
    hasSeparator (textOfAll segments) = hasSeparator (textOfAll segments') := by
  induction pairs with
  | nil => rfl
  | cons pair tail ih =>
    rw [textOfAll_cons, textOfAll_cons, hasSeparator_append, hasSeparator_append, ih,
      isBlank_of_interchangeable tail]
    cases pair with
    | same => rfl
    | comments sort wordless wordless' =>
      have free := wordless.no_semicolon
      have free' := wordless'.no_semicolon
      simp [hasSeparator_of_notMem free, hasSeparator_of_notMem free', free, free']

/-- A character that begins no comment is the first to be seen in both texts or in neither. -/
theorem firstVisible_of_interchangeable (other : c ∉ ['#', '-', '/']) :
    firstVisible (textOfAll segments) = some c ↔ firstVisible (textOfAll segments') = some c := by
  induction pairs with
  | nil => rfl
  | cons pair _ ih =>
    rw [textOfAll_cons, textOfAll_cons]
    cases pair with
    | same => exact ⟨firstVisible_append_of_imp ih.mp, firstVisible_append_of_imp ih.mpr⟩
    | comments sort wordless wordless' =>
      exact iff_of_false (firstVisible_comment wordless.isComment other _)
        (firstVisible_comment wordless'.isComment other _)

theorem opensString_of_interchangeable : opensString segments = opensString segments' := by
  cases pairs with
  | nil => rfl
  | @cons s s' later later' pair tail =>
    cases pair with
    | same =>
      cases s with
      | quoted mark inside closed => cases mark <;> rfl
      | _ => rfl
    | comments sort wordless wordless' =>
      have absent {s : Segment} {later : List Segment} (wordless : Wordless s) :
          opensString (s :: later) = false := by
        have comment := wordless.isComment
        cases s <;> simp_all [Segment.isComment, opensString]
      rw [absent wordless, absent wordless']

/-- What the scan finds in a segment depends on what follows it only through characters that begin
no comment, and through literals. -/
theorem findBlockedInSegment_of_interchangeable (s : Segment) :
    findBlockedInSegment tables s segments = findBlockedInSegment tables s segments' := by
  refine findSome?_congr_of_mem fun found _ => ?_
  have behind {c : Char} (other : c ∉ ['#', '-', '/']) :
      firstVisible (found.after ++ textOfAll segments) = some c ↔
        firstVisible (found.after ++ textOfAll segments') = some c :=
    ⟨firstVisible_append_of_imp (firstVisible_of_interchangeable pairs other).mp,
      firstVisible_append_of_imp (firstVisible_of_interchangeable pairs other).mpr⟩
  have word : blockedWord? tables found segments = blockedWord? tables found segments' := by
    rw [blockedWord?_eq, blockedWord?_eq found segments']
    exact blockedWord?_congr rfl (behind (by decide)) (behind (by decide))
  have literal : encodedLiteral? s found segments = encodedLiteral? s found segments' := by
    simp only [encodedLiteral?, opensString_of_interchangeable pairs]
  rw [word, literal]

/-- The scan finds the same token. -/
theorem findBlockedInSegments_of_interchangeable :
    findBlockedInSegments tables segments = findBlockedInSegments tables segments' := by
  induction pairs with
  | nil => rfl
  | @cons s s' later later' pair tail ih =>
    have here : findBlockedInSegment tables s later = findBlockedInSegment tables s' later' := by
      cases pair with
      | same => exact findBlockedInSegment_of_interchangeable tail s
      | comments sort wordless wordless' =>
        rw [findBlockedInSegment, wordless.wordsAt_text, findBlockedInSegment,
          wordless'.wordsAt_text]
        rfl
    rw [findBlockedInSegments, findBlockedInSegments, here, ih]

end Segments

/-! ### Verdicts -/

/-- Queries whose segments can be exchanged have the same first violation. -/
theorem violation?_of_interchangeable
    (pairs : List.Forall₂ Interchangeable (split query) (split query')) :
    g.violation? query = g.violation? query' := by
  have plain : plainForm (split query) = plainForm (split query') :=
    congrArg Text.normalize (flatMap_of_interchangeable pairs Interchangeable.skipped_eq)
  have executed : executedForm (split query) = executedForm (split query') :=
    congrArg (fun text => dropSemicolon (Text.normalize text))
      (flatMap_of_interchangeable pairs Interchangeable.executed_eq)
  have separator : hasSeparator query = hasSeparator query' := by
    rw [← textOfAll_split query, ← textOfAll_split query', hasSeparator_of_interchangeable pairs]
  have token : findBlocked g.blockedTables query = findBlocked g.blockedTables query' :=
    findBlockedInSegments_of_interchangeable pairs
  have selects : countWord Keyword.select query = countWord Keyword.select query' := by
    rw [countWord, countWord, words_eq_flatMap_split, words_eq_flatMap_split,
      flatMap_of_interchangeable pairs Interchangeable.words_text_eq]
  simp only [violation?, statementViolation?, commentViolation?_of_interchangeable pairs, plain,
    executed, separator, token, selects]

/-- Two queries that differ in closed comments only, none of them executable, with neither words nor
semicolons in them, are both approved or both rejected, for the same sort of reason and in the same
words. -/
theorem verdict_of_wordless_comments (unlimited : g.limit = .unlimited)
    (text : textOf v = .ok query) (text' : textOf v' = .ok query')
    (pairs : List.Forall₂ Interchangeable (split query) (split query')) :
    ∃ verdict verdict', g.verdict v = .ok verdict ∧ g.verdict v' = .ok verdict' ∧
      verdict.summary = verdict'.summary := by
  refine ⟨_, _, verdict_of_unlimited unlimited text, verdict_of_unlimited unlimited text', ?_⟩
  rw [violation?_of_interchangeable pairs]
  exact summary_ofViolation? query query' _

/-- Quotes and the marks that begin comments, in comments of either sort. -/
theorem verdict_of_wordless_comments_of_quotes :
    let query := "SELECT id, /* ' */ title FROM posts -- /*".toList
    let query' := "SELECT id, /*-- #\x22(*/ title FROM posts # '.".toList
    (standard.limit = .unlimited ∧ textOf (.text query) = .ok query ∧
      textOf (.text query') = .ok query' ∧
      List.Forall₂ Interchangeable (split query) (split query')) ∧
    standard.verdict (.text query) = .ok .approved ∧
      standard.verdict (.text query') = .ok .approved := by
  intro query query'
  have unlimited : standard.limit = .unlimited := rfl
  have text : textOf (.text query) = .ok query := rfl
  have text' : textOf (.text query') = .ok query' := rfl
  have pairs : List.Forall₂ Interchangeable (split query) (split query') := by
    have segments : split query = [.code "SELECT id, ".toList, .blockComment " ' ".toList true,
        .code " title FROM posts ".toList, .lineComment .dashes " /*".toList] := by decide +kernel
    have segments' : split query' = [.code "SELECT id, ".toList,
        .blockComment "-- #\x22(".toList true, .code " title FROM posts ".toList,
        .lineComment .hash " '.".toList] := by decide +kernel
    have bare {t : List Char} (table : t.all (fun c => !isWordChar c) = true) :
        ∀ c ∈ t, isWordChar c = false := by simpa using table
    have block : Interchangeable (.blockComment " ' ".toList true)
        (.blockComment "-- #\x22(".toList true) :=
      .comments rfl ⟨.inr rfl, rfl, bare (by decide +kernel), by decide +kernel⟩
        ⟨.inr rfl, rfl, bare (by decide +kernel), by decide +kernel⟩
    have line : Interchangeable (.lineComment .dashes " /*".toList)
        (.lineComment .hash " '.".toList) :=
      .comments rfl ⟨.inl rfl, rfl, bare (by decide +kernel), by decide +kernel⟩
        ⟨.inl rfl, rfl, bare (by decide +kernel), by decide +kernel⟩
    rw [segments, segments']
    exact .cons (.same _) (.cons block (.cons (.same _) (.cons line .nil)))
  have approved : standard.verdict (.text query) = .ok .approved := by
    have clean : standard.violation? query = none := by
      rw [standard_eq]
      decide +kernel
    exact textVerdict_eq_approved_iff_violation?.mpr ⟨rfl, clean⟩
  obtain ⟨verdict, verdict', decided, decided', same⟩ :=
    verdict_of_wordless_comments unlimited text text' pairs
  obtain rfl := Except.ok.inj (approved.symm.trans decided)
  -- An approval is all that has its summary.
  have approved' : verdict' = .approved := by
    cases verdict' with
    | approved => rfl
    | rejected r => cases congrArg Prod.fst same
  rw [approved'] at decided'
  exact ⟨⟨unlimited, text, text', pairs⟩, approved, decided'⟩

end QueryGate.Gate
