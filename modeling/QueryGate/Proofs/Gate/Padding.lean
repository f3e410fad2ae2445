import QueryGate.Proofs.Gate.Context
import QueryGate.Proofs.Gate.FirstWord
import QueryGate.Proofs.Gate.Leftmost
import QueryGate.Proofs.Gate.Listing
import QueryGate.Proofs.Sql.Padding

/-!
# White space and one semicolon around a query

White space in front of a query and an ending behind it leave the verdict as it is. Where the ending
goes into a comment that is open, the query was rejected for that comment before; where it goes
into a literal or stands as code, every check sees what it saw, or drops the semicolon. A second
semicolon is too many, for then something follows the first.

## Main definitions

* `Violation.kind`, `Verdict.outcome` — what a verdict says apart from its wording

## Main results

* `findBlocked_append_ending`, `findBlocked_blank_append` — the scan with more around the text
* `kind_violation?_append`, `violation?_blank_append` — the first violation
* `verdict_of_padding` — verdicts on queries with white space and a semicolon around them
-/

namespace QueryGate.Gate

open Sql Text Segment

variable {g : Gate} {query text tail u v a b : List Char} {tables : List (List Char)}
  {segments segments' : List Segment} {c : Char}

/-! ### The beginning of a query -/

/-- What does not go on with a word does not matter to the beginning of a text. -/
theorem startsWithSelect_append (outside : startsInWord b = false) :
    startsWithSelect (a ++ b) = startsWithSelect a := by
  have behind (rest : List Char) : startsInWord (rest ++ b) = startsInWord rest := by
    cases rest with
    | nil => exact outside
    | cons c rest => rfl
  rw [Bool.eq_iff_iff, startsWithSelect_iff, startsWithSelect_iff]
  constructor
  · rintro ⟨word, rest, eq, same, ends⟩
    rcases List.append_eq_append_iff.mp eq with ⟨more, rfl, inRest⟩ | ⟨more, rfl, rfl⟩
    · cases more with
      | nil => exact ⟨a, [], by simp, by simpa using same, rfl⟩
      | cons c more =>
        -- The word would go on behind the first text.
        have letter : isWordChar c = true :=
          (upperText_of_forall₂ (List.Subset.refl _) same).1 c (by simp)
        rw [inRest, List.cons_append, startsInWord_cons, letter] at outside
        cases outside
    · exact ⟨word, more, rfl, same, by rwa [behind] at ends⟩
  · rintro ⟨word, rest, rfl, same, ends⟩
    exact ⟨word, rest ++ b, List.append_assoc .., same, by rwa [behind]⟩

theorem startsWithSelect_normalize_append (ending : IsEnding tail) (a : List Char) :
    startsWithSelect (Text.normalize (a ++ tail)) = startsWithSelect (Text.normalize a) := by
  rcases ending with blank | ⟨v, rfl, blank⟩
  · rw [normalize_append_blank blank]
  · obtain ⟨b, eq, spaces⟩ := exists_append_blank (collapse (a.dropWhile isSpace))
    have outside : startsInWord (b ++ [';']) = false := by
      cases b with
      | nil => decide
      | cons c b => exact isWordChar_of_isSpace (List.all_eq_true.mp spaces c List.mem_cons_self)
    rw [normalize_append_semicolon blank, eq, List.append_assoc, startsWithSelect_append outside,
      ← normalize_eq]

/-! ### Blocked tokens -/

theorem literals_codeAlone (t : List Char) : literals (codeAlone t) = [] := by
  cases t <;> rfl

/-- Literals begin where they did. -/
theorem literals_of_padded (padded : Padded tail segments segments') :
    literals segments' = (literals segments).map (· ++ tail) := by
  induction padded with
  | nil => exact literals_codeAlone tail
  | lineComment mark inside whole => exact literals_codeAlone _
  | quoted mark inside => cases mark <;> simp [literals, opensString, Segment.text]
  | @cons s later later' closed padded ih =>
    have first : opensString (s :: later') = opensString (s :: later) := by
      cases s with
      | quoted mark inside closed => cases mark <;> rfl
      | _ => rfl
    have whole := (Padded.cons closed padded).textOfAll_eq
    rw [literals, literals, first, ih, whole]
    split <;> rfl
  | _ => rfl

theorem wordsAt_append_ending (ending : IsEnding tail) (text : List Char) :
    wordsAt (text ++ tail) = (wordsAt text).map (.mapAfter (· ++ tail)) := by
  have outside : ∀ c ∈ tail, isWordChar c = false := fun _ => ending.isWordChar_eq_false
  have starts : startsInWord tail = false := by
    cases tail with
    | nil => rfl
    | cons c tail => exact outside c List.mem_cons_self
  rw [wordsAt_append (.of_startsInWord starts), wordsAt_eq_nil outside, List.append_nil]

/-- An ending brings no token along and takes none away. -/
theorem findBlocked_append_ending (ending : IsEnding tail) (text : List Char) :
    findBlocked tables (text ++ tail) = findBlocked tables text := by
  have behind {found : WordAt} {c : Char} (visible : isSpace c = false) (other : c ≠ ';') :
      firstVisible (found.after ++ tail) = some c ↔ firstVisible found.after = some c :=
    firstVisible_append_iff fun first =>
      ending.notMem visible other (List.mem_of_find?_eq_some first)
  rw [findBlocked_eq_findSome?, findBlocked_eq_findSome?, wordsAt_append_ending ending,
    literals_of_padded (padded_split ending text), List.findSome?_map]
  refine findSome?_congr_of_mem fun found _ => ?_
  have word : blockedWord? tables (found.mapAfter (· ++ tail)) [] = blockedWord? tables found [] :=
    blockedWord?_congr rfl (behind (by decide) (by decide)) (behind (by decide) (by decide))
  have literal : found.after ++ tail ∈ (literals (split text)).map (· ++ tail) ↔
      found.after ∈ literals (split text) :=
    List.mem_map_of_injective (List.append_left_injective tail)
  simp only [Function.comp_apply, tokenAt?, word, WordAt.word_mapAfter, WordAt.after_mapAfter,
    literal]

theorem literals_consCode (c : Char) (segments : List Segment) :
    literals (consCode c segments) = literals segments := by
  unfold consCode
  split <;> rfl

/-- White space in front of a text does neither. -/
theorem findBlocked_blank_append (blank : isBlank u = true) (text : List Char) :
    findBlocked tables (u ++ text) = findBlocked tables text := by
  have same : literals (u.foldr consCode (split text)) = literals (split text) := by
    clear blank
    induction u with
    | nil => rfl
    | cons c u ih => rw [List.foldr_cons, literals_consCode, ih]
  rw [findBlocked_eq_findSome?, findBlocked_eq_findSome?, wordsAt_blank_append blank,
    split_blank_append blank, same]

/-! ### Violations -/

/-- The sort of rejection to which a violation leads. -/
def Violation.kind (violation : Violation) : Kind :=
  (Rejection.ofViolation [] violation).kind

theorem kind_ofViolation (query : List Char) (violation : Violation) :
    (Rejection.ofViolation query violation).kind = violation.kind := by
  cases violation <;> rfl

theorem countWord_append_ending (ending : IsEnding tail) (capitals text : List Char) :
    countWord capitals (text ++ tail) = countWord capitals text := by
  simp [countWord, words, wordsAt_append_ending ending, Function.comp_def]

theorem commentViolation?_cons (s : Segment) (later : List Segment) :
    g.commentViolation? (s :: later) = (g.segmentViolation? s).or (g.commentViolation? later) := by
  rw [commentViolation?, List.findSome?_cons]
  cases g.segmentViolation? s <;> rfl

theorem commentViolation?_codeAlone (t : List Char) : g.commentViolation? (codeAlone t) = none := by
  cases t <;> rfl

/-- What a server may run of an open comment is rejected for the same sort of reason with an ending
behind it. A semicolon makes a difference to the wording only. -/
theorem kind_bodyViolation?_append (ending : IsEnding tail) (body : List Char) :
    ((g.bodyViolation? (body ++ tail)).or (some (.flawed .unterminatedComment))).map
        Violation.kind =
      ((g.bodyViolation? body).or (some (.flawed .unterminatedComment))).map Violation.kind := by
  simp only [bodyViolation?, findBlocked_append_ending ending, countWord_append_ending ending]
  cases findBlocked g.blockedTables body with
  | some token => rfl
  | none =>
    dsimp only
    by_cases selects : countWord Keyword.select body = 0
    · cases (body ++ tail).contains ';' <;> cases body.contains ';' <;> simp [selects] <;> rfl
    · simp [selects]

/-- Comments are rejected for the same sort of reason. -/
theorem kind_commentViolation?_of_padded (ending : IsEnding tail)
    (padded : Padded tail segments segments') :
    (g.commentViolation? segments').map Violation.kind =
      (g.commentViolation? segments).map Violation.kind := by
  -- Only the last segment is longer, and what a line comment says is not checked.
  induction padded with
  | nil =>
    rw [commentViolation?_codeAlone]
    rfl
  | lineComment mark inside whole =>
    have line (t : List Char) : g.segmentViolation? (.lineComment mark t) = none := rfl
    rw [commentViolation?_cons, commentViolation?_cons, line, line, commentViolation?_codeAlone]
    rfl
  | executableComment mark version body =>
    have alone (t : List Char) :
        g.commentViolation? [.executableComment mark version t false] =
          (g.bodyViolation? t).or (some (.flawed .unterminatedComment)) := by
      rw [commentViolation?_cons]
      exact Option.or_none
    rw [alone, alone]
    exact kind_bodyViolation?_append ending body
  | @cons s later later' closed padded ih =>
    rw [commentViolation?_cons, commentViolation?_cons]
    cases g.segmentViolation? s with
    | some violation => rfl
    | none => exact ih
  | _ => rfl

/-- Where comments violate nothing, all of them are closed. -/
theorem isTerminated_of_commentViolation? (clean : g.commentViolation? segments = none) :
    ∀ s ∈ segments, s.isComment = true → s.isTerminated = true := by
  intro s member comment
  have none := commentViolation?_eq_none_iff.mp clean s member
  cases s with
  | executableComment mark version body closed => exact (segmentViolation?_executable.mp none).2
  | blockComment inside closed =>
    cases closed with
    | true => rfl
    | false => cases none
  | quoted mark inside closed => cases comment
  | _ => rfl

/-- An ending behind a query leaves the sort of its first violation as it is. -/
theorem kind_violation?_append (ending : IsEnding tail) (free : ';' ∉ query) :
    (g.violation? (query ++ tail)).map Violation.kind =
      (g.violation? query).map Violation.kind := by
  have padded := padded_split ending query
  have comments := kind_commentViolation?_of_padded (g := g) ending padded
  -- A query with an open comment is rejected here, so only the other case looks at the readings.
  cases found : g.commentViolation? (split query) with
  | some violation =>
    obtain ⟨violation', found', same⟩ : ∃ violation',
        g.commentViolation? (split (query ++ tail)) = some violation' ∧
          violation'.kind = violation.kind := by
      rw [found, Option.map_some, Option.map_eq_some_iff] at comments
      exact comments
    simp only [violation?, found, found', Option.map_some, same]
  | none =>
    have found' : g.commentViolation? (split (query ++ tail)) = none := by
      rwa [found, Option.map_none, Option.map_eq_none_iff] at comments
    have closed := isTerminated_of_commentViolation? found
    -- Both readings get what does not go into a line comment, and that is an ending too.
    obtain ⟨rest, suffix, plain⟩ := padded.flatMap_eq isReading_skipped (fun _ _ _ => rfl) closed
    obtain ⟨rest', suffix', executed⟩ :=
      padded.flatMap_eq isReading_executed (fun _ _ _ => rfl) closed
    have freePlain : ';' ∉ (split query).flatMap skipped := fun member =>
      free (mem_of_mem_reading skipped_subset (by decide) member)
    have freeExecuted : ';' ∉ (split query).flatMap Segment.executed := fun member =>
      free (mem_of_mem_reading executed_subset (by decide) member)
    have starts : startsWithSelect (plainForm (split (query ++ tail))) =
        startsWithSelect (plainForm (split query)) := by
      rw [plainForm, withoutComments, plain]
      exact startsWithSelect_normalize_append (ending.of_isSuffix suffix) _
    have dropped : dropSemicolon (plainForm (split (query ++ tail))) =
        dropSemicolon (plainForm (split query)) := by
      rw [plainForm, withoutComments, plain]
      exact dropSemicolon_normalize_append (ending.of_isSuffix suffix) freePlain
    have allowed : executedForm (split (query ++ tail)) = executedForm (split query) := by
      rw [executedForm, asExecuted, executed]
      exact dropSemicolon_normalize_append (ending.of_isSuffix suffix') freeExecuted
    simp only [violation?, found, found', statementViolation?, starts, dropped, allowed,
      findBlocked_append_ending ending, countWord_append_ending ending,
      ending.hasSeparator_eq_false free, hasSeparator_of_notMem free]

/-! ### White space in front -/

theorem commentViolation?_foldr_consCode (u : List Char) (segments : List Segment) :
    g.commentViolation? (u.foldr consCode segments) = g.commentViolation? segments := by
  have one (c : Char) (segments : List Segment) :
      g.commentViolation? (consCode c segments) = g.commentViolation? segments := by
    unfold consCode
    split <;> rfl
  induction u with
  | nil => rfl
  | cons c u ih => rw [List.foldr_cons, one, ih]

/-- White space in front of a query does not matter to any check. -/
theorem violation?_blank_append (blank : isBlank u = true) (query : List Char) :
    g.violation? (u ++ query) = g.violation? query := by
  -- White space in front is code, and no normal form and no word begins with it.
  have plain : plainForm (u.foldr consCode (split query)) = plainForm (split query) := by
    rw [plainForm, withoutComments, isReading_skipped.flatMap_foldr_consCode,
      normalize_blank_append blank]
    rfl
  have executed : executedForm (u.foldr consCode (split query)) = executedForm (split query) := by
    rw [executedForm, asExecuted, isReading_executed.flatMap_foldr_consCode,
      normalize_blank_append blank]
    rfl
  have separator : hasSeparator (u ++ query) = hasSeparator query := by
    have free := semicolon_notMem_of_isBlank blank
    simp [hasSeparator_append, hasSeparator_of_notMem free, free]
  have selects : countWord Keyword.select (u ++ query) = countWord Keyword.select query := by
    rw [countWord, countWord, words, words, wordsAt_blank_append blank]
  simp only [violation?, statementViolation?, split_blank_append blank,
    commentViolation?_foldr_consCode, plain, executed, separator, findBlocked_blank_append blank,
    selects]

/-! ### Verdicts -/

/-- Whether a query may be run, and if not, the sort of the rejection. -/
def Verdict.outcome (verdict : Verdict) : Bool × Option Kind :=
  (verdict.isApproved, verdict.rejection?.map Rejection.kind)

theorem outcome_ofViolation? (query : List Char) (violation? : Option Violation) :
    (Verdict.ofViolation? query violation?).outcome =
      (violation?.isNone, violation?.map Violation.kind) := by
  rcases violation? with _ | violation
  · rfl
  · rw [Option.map_some, ← kind_ofViolation query violation]
    rfl

/-- Without a length limit, white space around a query that has no semicolon changes neither whether
it is approved nor the sort of the rejection, and neither does one semicolon in front of the white
space at its end. With a second semicolon it is rejected. -/
theorem verdict_of_padding (unlimited : g.limit = .unlimited) (free : ';' ∉ query)
    (blankFront : isBlank u = true) (blankEnd : isBlank v = true) :
    (∃ verdict spaced ended, g.verdict (.text query) = .ok verdict ∧
      g.verdict (.text (u ++ query ++ v)) = .ok spaced ∧
      g.verdict (.text (u ++ query ++ ';' :: v)) = .ok ended ∧
      spaced.outcome = verdict.outcome ∧ ended.outcome = verdict.outcome) ∧
    ∃ r, g.verdict (.text (u ++ query ++ ';' :: v ++ [';'])) = .ok (.rejected r) := by
  have decided (text : List Char) :
      g.verdict (.text text) = .ok (.ofViolation? text (g.violation? text)) :=
    verdict_of_unlimited unlimited rfl
  have padded {tail : List Char} (ending : IsEnding tail) :
      (Verdict.ofViolation? (u ++ query ++ tail) (g.violation? (u ++ query ++ tail))).outcome =
        (Verdict.ofViolation? query (g.violation? query)).outcome := by
    have same := kind_violation?_append (g := g) ending free
    rw [outcome_ofViolation?, outcome_ofViolation?, List.append_assoc,
      violation?_blank_append blankFront, same, ← Option.isNone_map, same, Option.isNone_map]
  refine ⟨⟨_, _, _, decided _, decided _, decided _, padded (.inl blankEnd),
    padded (.inr ⟨v, rfl, blankEnd⟩)⟩, ?_⟩
  -- The second semicolon follows the first one.
  have separator : hasSeparator (u ++ query ++ ';' :: v ++ [';']) ≠ false := by
    intro absent
    have blank : isBlank (v ++ [';']) = true :=
      hasSeparator_eq_false_iff.mp absent (u ++ query) (v ++ [';']) (by simp)
    exact semicolon_notMem_of_isBlank blank (by simp)
  rw [decided]
  cases found : g.violation? (u ++ query ++ ';' :: v ++ [';']) with
  | some violation => exact ⟨_, rfl⟩
  | none =>
    obtain ⟨-, statement, -⟩ := violation?_eq_none_iff.mp found
    exact absurd (statementViolation?_eq_none_iff.mp statement).2.2.1 separator

/-- A semicolon that goes into a line comment, where it counts like any other. -/
theorem verdict_of_padding_of_line_comment :
    let query := "SELECT * FROM posts -- all".toList
    let u := "\n\t".toList
    let v := " \n ".toList
    (standard.limit = .unlimited ∧ ';' ∉ query ∧ isBlank u = true ∧ isBlank v = true) ∧
    standard.verdict (.text query) = .ok .approved ∧
      standard.verdict (.text (u ++ query ++ v)) = .ok .approved ∧
      standard.verdict (.text (u ++ query ++ ';' :: v)) = .ok .approved ∧
      ∃ r, standard.verdict (.text (u ++ query ++ ';' :: v ++ [';'])) = .ok (.rejected r) := by
  intro query u v
  have unlimited : standard.limit = .unlimited := rfl
  have free : ';' ∉ query := by decide
  have blankFront : isBlank u = true := by decide
  have blankEnd : isBlank v = true := by decide
  have approved : standard.verdict (.text query) = .ok .approved := by
    have clean : standard.violation? query = none := by
      rw [standard_eq]
      decide +kernel
    exact textVerdict_eq_approved_iff_violation?.mpr ⟨rfl, clean⟩
  obtain ⟨⟨verdict, spaced, ended, decided, decidedSpaced, decidedEnded, same, sameEnded⟩, twice⟩ :=
    verdict_of_padding unlimited free blankFront blankEnd
  obtain rfl := Except.ok.inj (approved.symm.trans decided)
  have only {verdict : Verdict} (same : verdict.outcome = Verdict.approved.outcome) :
      verdict = .approved := by
    cases verdict with
    | approved => rfl
    | rejected r => cases congrArg Prod.fst same
  rw [only same] at decidedSpaced
  rw [only sameEnded] at decidedEnded
  exact ⟨⟨unlimited, free, blankFront, blankEnd⟩, approved, decidedSpaced, decidedEnded, twice⟩

end QueryGate.Gate
