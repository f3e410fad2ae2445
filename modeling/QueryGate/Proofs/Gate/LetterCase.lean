import QueryGate.Proofs.Gate.Approval
import QueryGate.Proofs.Gate.Making
import QueryGate.Proofs.Gate.Scan
import QueryGate.Proofs.Pattern.LetterCase
import QueryGate.Proofs.Pattern.Shape
import QueryGate.Proofs.Sql.LetterCase

/-!
# Verdicts and the case of letters

No check tells a query from the same query with its letters written small: words are compared in
upper case, and a pattern that was given as text matches letters in either case. Two things do
depend on case and are left out. A pattern can come ready for use and look at case, and a comment
that begins with `/*M!` is run by some servers while one that begins with `/*m!` is not.

## Main definitions

* `Gate.Written` — every pattern of a gate was given as text
* `Verdict.summary` — what a verdict says besides which query it is about

## Main results

* `written_standard`, `written_of_make`, `Written.addPattern` — gates whose patterns were given as
  text
* `findBlocked_lowerAscii` — the scan for blocked tokens in a text written small
* `violation?_lowerAscii` — the first violation by a text written small
* `verdict_of_same_letters` — queries that differ in the case of letters only
-/

namespace QueryGate.Gate

open Sql Text

variable {g : Gate} {v v' : Value} {query query' : List Char} {tables : List (List Char)}

/-! ### Blocked tokens -/

theorem firstVisible_lowerAscii (text : List Char) :
    firstVisible (lowerAscii text) = (firstVisible text).map Char.toLower := by
  have visible (c : Char) : isVisible c.toLower = isVisible c := apply_toLower (by decide) c
  rw [firstVisible, firstVisible, lowerAscii, List.find?_map]
  simp only [Function.comp_def, visible]

theorem follower_lowerAscii (after : List Char) (later : List Segment) :
    follower (lowerAscii after) (later.map Segment.lowerAscii) =
      (follower after later).map Char.toLower := by
  rw [follower_eq, follower_eq, Segment.textOfAll_lowerAscii, ← lowerAscii_append,
    firstVisible_lowerAscii]

theorem blockedWord?_lowerAscii (found : WordAt) (later : List Segment) :
    blockedWord? tables found.lowerAscii (later.map Segment.lowerAscii) =
      blockedWord? tables found later := by
  -- What follows a word is compared with signs only, which have no other case.
  have next {d : Char} (small : d.toLower = d) (capital : d.toUpper = d) :
      (follower (lowerAscii found.after) (later.map Segment.lowerAscii) == some d) =
        (follower found.after later == some d) := by
    rw [follower_lowerAscii, Bool.eq_iff_iff, beq_iff_eq, beq_iff_eq]
    cases follower found.after later <;> simp [toLower_eq_iff small capital]
  have parenthesis := next (d := '(') rfl rfl
  have dot := next (d := '.') rfl rfl
  simp only [blockedWord?, WordAt.lowerAscii, upperText_lowerAscii, bne, parenthesis, dot]

theorem opensString_lowerAscii (segments : List Segment) :
    opensString (segments.map Segment.lowerAscii) = opensString segments := by
  cases segments with
  | nil => rfl
  | cons s segments =>
    cases s with
    | quoted mark inside closed => cases mark <;> rfl
    | executableComment mark version body closed => cases mark <;> rfl
    | _ => rfl

theorem encodedLiteral?_lowerAscii (s : Segment) (found : WordAt) (later : List Segment) :
    encodedLiteral? s.lowerAscii found.lowerAscii (later.map Segment.lowerAscii) =
      encodedLiteral? s found later := by
  have nothing : (lowerAscii found.after).isEmpty = found.after.isEmpty := by
    cases found.after <;> rfl
  cases s with
  | code t =>
    simp only [Segment.lowerAscii, encodedLiteral?, WordAt.lowerAscii, upperText_lowerAscii,
      nothing, opensString_lowerAscii]
  | executableComment mark version body closed => cases mark <;> rfl
  | _ => rfl

theorem findBlockedInSegment_lowerAscii (s : Segment) (later : List Segment) :
    findBlockedInSegment tables s.lowerAscii (later.map Segment.lowerAscii) =
      findBlockedInSegment tables s later := by
  rw [findBlockedInSegment, Segment.text_lowerAscii, wordsAt_lowerAscii, List.findSome?_map,
    findBlockedInSegment]
  simp only [Function.comp_def, blockedWord?_lowerAscii, encodedLiteral?_lowerAscii]

/-- The scan finds the same token in a text written small. -/
theorem findBlocked_lowerAscii (text : List Char) :
    findBlocked tables (lowerAscii text) = findBlocked tables text := by
  -- The segments are the same but for case, and so is the answer on each of them.
  rw [findBlocked, findBlocked, split_lowerAscii]
  induction split text with
  | nil => rfl
  | cons s later ih =>
    rw [List.map_cons, findBlockedInSegments, findBlockedInSegment_lowerAscii, ih,
      findBlockedInSegments]

/-! ### Checks -/

theorem startsWithSelect_lowerAscii (text : List Char) :
    startsWithSelect (lowerAscii text) = startsWithSelect text := by
  rw [startsWithSelect, afterLetters?_lowerAscii, Option.any_map, startsWithSelect]
  simp only [startsInWord_lowerAscii]

theorem contains_semicolon_lowerAscii (text : List Char) :
    (lowerAscii text).contains ';' = text.contains ';' := by
  rw [Bool.eq_iff_iff, List.contains_iff_mem, List.contains_iff_mem, semicolon_mem_lowerAscii_iff]

theorem bodyViolation?_lowerAscii (body : List Char) :
    g.bodyViolation? (lowerAscii body) = g.bodyViolation? body := by
  rw [bodyViolation?, findBlocked_lowerAscii, countWord_lowerAscii, contains_semicolon_lowerAscii,
    bodyViolation?]

theorem segmentViolation?_lowerAscii {s : Segment} (other : ¬ s.IsMariaDb) :
    g.segmentViolation? s.lowerAscii = g.segmentViolation? s := by
  cases s with
  | executableComment mark version body closed =>
    cases mark with
    | anyServer =>
      simp only [Segment.lowerAscii, segmentViolation?, bodyViolation?_lowerAscii]
      rfl
    | mariaDb => exact absurd trivial other
  | _ => rfl

theorem statementViolation?_lowerAscii (query plain : List Char) :
    g.statementViolation? (lowerAscii query) (lowerAscii plain) =
      g.statementViolation? query plain := by
  simp only [statementViolation?, startsWithSelect_lowerAscii, dropSemicolon_lowerAscii,
    contains_semicolon_lowerAscii, hasSeparator_lowerAscii, findBlocked_lowerAscii,
    countWord_lowerAscii]

theorem plainForm_lowerAscii (segments : List Segment) :
    plainForm (segments.map Segment.lowerAscii) = lowerAscii (plainForm segments) := by
  rw [plainForm, withoutComments_lowerAscii, normalize_lowerAscii, plainForm]

theorem executedForm_lowerAscii {segments : List Segment} (others : ∀ s ∈ segments, ¬ s.IsMariaDb) :
    executedForm (segments.map Segment.lowerAscii) = lowerAscii (executedForm segments) := by
  rw [executedForm, asExecuted_lowerAscii others, normalize_lowerAscii, dropSemicolon_lowerAscii,
    executedForm]

/-! ### Gates with written patterns -/

/-- Every pattern of a gate is an expression that was given as text, and so matches letters in either
case. -/
def Written (g : Gate) : Prop :=
  ∀ p ∈ g.patterns, ∃ source meaning, Pattern.readExpression source = .ok meaning ∧
    p = .expression source true meaning

theorem written_standard : standard.Written := by
  intro p member
  have patterns : standard.patterns = Pattern.Default.patterns := by
    rw [standard]
  rw [patterns, Pattern.Default.patterns, List.mem_filterMap] at member
  obtain ⟨source, -, here⟩ := member
  obtain ⟨meaning, read, rfl⟩ := Option.map_eq_some_iff.mp here
  refine ⟨source, meaning, ?_, rfl⟩
  cases result : Pattern.readExpression source with
  | error failure => simp [result, Except.toOption] at read
  | ok other => simpa [result, Except.toOption] using read

section Making

variable [Pattern.Engine]

/-- Patterns given as text make a gate whose patterns are written, if their texts can be read. -/
theorem written_of_make {spec : GateSpec} {sources : List (List Char)}
    (given : spec.patterns = .items (sources.map (.value ∘ .text)))
    (readable : ∀ source ∈ sources, ∃ meaning, Pattern.readExpression source = .ok meaning)
    (made : make spec = .ok g) : g.Written := by
  intro p member
  have compiled := (make_eq_ok_iff.mp made).1
  rw [given, patternsOf_items] at compiled
  obtain ⟨argument, inside, here⟩ := exists_of_mem_mapM compiled member
  obtain ⟨source, known, rfl⟩ := List.mem_map.mp inside
  obtain ⟨meaning, read⟩ := readable source known
  exact ⟨source, meaning, read, Except.ok.inj (here.symm.trans (compile_text_of_read read))⟩

theorem Written.addPattern (written : g.Written) {source : List Char} {meaning : Pattern.Expression}
    (read : Pattern.readExpression source = .ok meaning) {wider : Gate}
    (added : (addPattern (.value (.text source))).on g = .ok wider) : wider.Written := by
  obtain rfl := Except.ok.inj (added.symm.trans (addPattern_eq_ok (compile_text_of_read read)))
  intro p member
  rcases List.mem_append.mp member with old | new
  · exact written p old
  · exact ⟨source, meaning, read, List.mem_singleton.mp new⟩

end Making

/-- Written patterns allow a text written small if they allow the text. -/
theorem Written.allows_lowerAscii (written : g.Written) (text : List Char) :
    g.allows (lowerAscii text) = g.allows text := by
  have each : ∀ p ∈ g.patterns, p.accepts (lowerAscii text) = p.accepts text := by
    intro p member
    obtain ⟨source, meaning, -, rfl⟩ := written p member
    exact Pattern.accepts_lowerAscii source meaning text
  rw [Bool.eq_iff_iff, allows, allows, List.any_eq_true, List.any_eq_true]
  exact exists_congr fun p => and_congr_right fun member => by rw [each p member]

/-- Written small, a query has the same first violation. -/
theorem violation?_lowerAscii (written : g.Written) (absent : ¬ ['/', '*', 'M', '!'] <:+: query) :
    g.violation? (lowerAscii query) = g.violation? query := by
  have others : ∀ s ∈ split query, ¬ s.IsMariaDb :=
    fun s member mariaDb => absent (infix_of_isMariaDb member mariaDb)
  have comments : g.commentViolation? ((split query).map Segment.lowerAscii) =
      g.commentViolation? (split query) := by
    rw [commentViolation?, List.findSome?_map]
    exact findSome?_congr_of_mem fun s member => segmentViolation?_lowerAscii (others s member)
  rw [violation?, violation?, split_lowerAscii, comments, plainForm_lowerAscii,
    statementViolation?_lowerAscii, executedForm_lowerAscii others, written.allows_lowerAscii]

/-! ### Verdicts -/

/-- What a verdict says besides which query it is about: whether the query may be run, and if not,
the sort and the reason of the rejection. -/
def Verdict.summary (verdict : Verdict) : Bool × Option Kind × Option (List Char) :=
  (verdict.isApproved, verdict.rejection?.map Rejection.kind, verdict.reason?)

/-- The violation alone decides what is said. -/
theorem summary_ofViolation? (query query' : List Char) (violation? : Option Violation) :
    (Verdict.ofViolation? query violation?).summary =
      (Verdict.ofViolation? query' violation?).summary := by
  rcases violation? with _ | _ | _ | _ <;> rfl

/-- Two queries that differ in the case of letters of the ASCII set only, and have no comment that
MariaDB alone runs, are both approved or both rejected, for the same sort of reason and in the same
words, by every gate whose patterns were given as text. -/
theorem verdict_of_same_letters (written : g.Written) (text : textOf v = .ok query)
    (text' : textOf v' = .ok query') (same : lowerAscii query = lowerAscii query')
    (absent : ¬ ['/', '*', 'M', '!'] <:+: query) (absent' : ¬ ['/', '*', 'M', '!'] <:+: query') :
    (g.verdict v).map Verdict.summary = (g.verdict v').map Verdict.summary := by
  have length : query.length = query'.length := by
    rw [← length_lowerAscii query, same, length_lowerAscii]
  -- Both queries have the violation of the text that they have in common when written small.
  have violation : g.violation? query = g.violation? query' := by
    rw [← violation?_lowerAscii written absent, same, violation?_lowerAscii written absent']
  rw [verdict, text, verdict, text']
  simp only [textVerdict, length, violation]
  -- The limit cannot be compared with, is kept, or is exceeded.
  rcases g.limit.exceededBy? query'.length with _ | _ | _
  · rfl
  · exact congrArg Except.ok (summary_ofViolation? query query' (g.violation? query'))
  · cases g.limit.shown? <;> rfl

/-- A class, a lookahead and the long s, which is a variant of a letter but not in the ASCII set. -/
theorem verdict_of_same_letters_of_long_s :
    let _ : Pattern.Engine := .plain
    let source := "select [^a-m]+ from (?!users)\\w+".toList
    let query := "\u017fELECT Row /*!50000 */FROM Posts;".toList
    let query' := "\u017felect rOW /*!50000 */from pOSTS;".toList
    (textOf (.text query) = .ok query ∧ textOf (.text query') = .ok query' ∧
      lowerAscii query = lowerAscii query' ∧ ¬ ['/', '*', 'M', '!'] <:+: query ∧
      ¬ ['/', '*', 'M', '!'] <:+: query') ∧
    ∃ g, make { patterns := .items [.value (.text source)] } = .ok g ∧ g.Written ∧
      (g.verdict (.text query')).map Verdict.summary = .ok (true, none, none) := by
  intro _ source query query'
  have same : lowerAscii query = lowerAscii query' := by decide +kernel
  have absent : ¬ ['/', '*', 'M', '!'] <:+: query := by decide +kernel
  have absent' : ¬ ['/', '*', 'M', '!'] <:+: query' := by decide +kernel
  have evaluated : ((Pattern.readExpression source).toOption.any fun meaning =>
      Gate.violation? ⟨[.expression source true meaning], .bool true, [], .unlimited⟩ query ==
        none) = true := by decide +kernel
  obtain ⟨meaning, read⟩ : ∃ meaning, Pattern.readExpression source = .ok meaning := by
    cases read : Pattern.readExpression source with
    | error failure => simp [read, Except.toOption] at evaluated
    | ok meaning => exact ⟨meaning, rfl⟩
  let g : Gate := ⟨[.expression source true meaning], .bool true, [], .unlimited⟩
  have given : Collection.items [PatternArgument.value (.text source)] =
      .items ([source].map (.value ∘ .text)) := rfl
  have made : make { patterns := .items [.value (.text source)] } = .ok g := by
    refine make_eq_ok_iff.mpr ⟨?_, rfl, rfl, rfl⟩
    rw [patternsOf_items, mapM_eq_ok_iff]
    exact .cons (compile_text_of_read read) .nil
  have written : g.Written :=
    written_of_make given (by simpa using ⟨meaning, read⟩) made
  have clean : g.violation? query = none := by simpa [read, Except.toOption] using evaluated
  have approved : g.verdict (.text query) = .ok .approved := by
    rw [verdict, textOf]
    exact textVerdict_eq_approved_iff_violation?.mpr ⟨rfl, clean⟩
  refine ⟨⟨rfl, rfl, same, absent, absent'⟩, g, made, written, ?_⟩
  rw [← verdict_of_same_letters (v := .text query) written rfl rfl same absent absent', approved]
  rfl

end QueryGate.Gate
