import QueryGate.Proofs.Sql.Boundaries
import QueryGate.Proofs.Sql.Formed
import QueryGate.Proofs.Sql.Readings

/-!
# What the lexer finds in a text without its comments

Where a comment is taken away, the space in its place stands between what was on its two sides. So
no mark is put together from two halves, no quote is doubled and none is escaped, and the lexer
finds the other segments again, with code on the two sides of a space made one. An open literal had
nothing behind it, and has nothing behind it now.

## Main definitions

* `Segment.blanked` — a comment as the space that stands for it
* `Segment.isQuoted` — quoted literals and names

## Main results

* `Reads.blanked` — segments with their comments blanked are what the lexer reads
* `split_withoutComments` — the segments of a text without its comments
* `stripped_once_for_all` — no comment is left, all quoted texts are, and nothing is left to strip
-/

namespace QueryGate.Sql

open Segment Text

variable {text : List Char} {s : Segment} {segments : List Segment} {c : Char}

/-! ### Comments as spaces -/

/-- A comment becomes the space that stands for it. -/
def Segment.blanked (s : Segment) : Segment :=
  if s.isComment then .code [' '] else s

theorem Segment.blanked_of_comment (comment : s.isComment = true) : s.blanked = .code [' '] :=
  if_pos comment

theorem Segment.blanked_of_not_comment (plain : s.isComment = false) : s.blanked = s :=
  if_neg (by simp [plain])

theorem Segment.isComment_blanked (s : Segment) : s.blanked.isComment = false := by
  cases comment : s.isComment with
  | true =>
    rw [blanked_of_comment comment]
    rfl
  | false => rw [blanked_of_not_comment comment, comment]

theorem Segment.text_blanked (s : Segment) : s.blanked.text = s.skipped := by
  rw [blanked, skipped, apply_ite Segment.text]
  rfl

theorem textOfAll_map_blanked (segments : List Segment) :
    textOfAll (segments.map Segment.blanked) = withoutComments segments := by
  rw [textOfAll, List.flatMap_map]
  exact List.flatMap_congr fun s _ => s.text_blanked

theorem segmentAt?_space (rest : List Char) : segmentAt? (' ' :: rest) = none :=
  segmentAt?_eq_none_iff.mpr ⟨rfl, by decide, by simp, by simp⟩

/-- Segments with their comments blanked are what the lexer reads at their places. -/
theorem Reads.blanked (reads : Reads segments) (nonempty : ∀ s ∈ segments, s.text ≠ []) :
    Reads (segments.map Segment.blanked) := by
  induction segments with
  | nil => trivial
  | cons s later ih =>
    have others : ∀ r ∈ later, r.text ≠ [] := fun r member => nonempty r (.tail s member)
    obtain ⟨fits, onward⟩ := reads_cons_iff.mp reads
    rw [List.map_cons]
    cases comment : s.isComment with
    | true =>
      -- Nothing begins with a space, whatever stands behind it.
      rw [Segment.blanked_of_comment comment]
      exact ⟨⟨segmentAt?_space _, trivial⟩, ih onward others⟩
    | false =>
      rw [Segment.blanked_of_not_comment comment, reads_cons_iff, textOfAll_map_blanked]
      refine ⟨fits.of_head? (fun ends => ?_) fun c first => ?_, ih onward others⟩
      · -- A comment leaves a space behind, so only what was last is last now.
        cases later with
        | nil => rfl
        | cons r later =>
          exact absurd (List.append_eq_nil_iff.mp ends).1 (others r List.mem_cons_self)
      · -- What follows begins as it did, or with the space in place of a comment.
        by_cases space : c = ' '
        · refine .inr ⟨space, fun line => ?_⟩
          cases s with
          | lineComment mark inside => cases comment
          | _ => cases line
        · exact .inl (isReading_skipped.head?_flatMap others space first)

/-- The segments of a text without its comments: what is not a comment stays, and the code on the two
sides of a comment becomes one with the space in between. -/
theorem split_withoutComments (text : List Char) :
    split (withoutComments (split text)) = joinCode ((split text).map Segment.blanked) := by
  rw [← textOfAll_map_blanked]
  exact split_textOfAll ((reads_split text).blanked (text_ne_nil_of_mem_split text))

/-! ### Quoted texts -/

/-- Whether a segment is a quoted literal or name. -/
def Segment.isQuoted : Segment → Bool
  | .quoted .. => true
  | _ => false

/-- Joining code changes nothing about the segments of other sorts. -/
theorem filter_joinCode {p : Segment → Bool} (code : ∀ t, p (.code t) = false)
    (segments : List Segment) : (joinCode segments).filter p = segments.filter p := by
  have skip (c : Char) (segments : List Segment) :
      (consCode c segments).filter p = segments.filter p := by
    unfold consCode
    split <;> simp [code]
  induction segments with
  | nil => rfl
  | cons s later ih =>
    cases s with
    | code t =>
      rw [joinCode, List.filter_cons_of_neg (by simp [code]), ← ih]
      induction t with
      | nil => rfl
      | cons c t step => rw [List.foldr_cons, skip, step]
    | _ => rw [joinCode_cons_of_not_code (by simp), List.filter_cons, List.filter_cons, ih]

theorem filter_isQuoted_map_blanked (segments : List Segment) :
    (segments.map Segment.blanked).filter Segment.isQuoted = segments.filter Segment.isQuoted := by
  induction segments with
  | nil => rfl
  | cons s later ih =>
    cases s <;> simp [Segment.blanked, isComment, Segment.isQuoted, List.filter_cons, ih]

/-- No comment is left in a text without its comments. -/
theorem isComment_of_mem_split_withoutComments
    (member : s ∈ split (withoutComments (split text))) : s.isComment = false := by
  by_cases code : ∃ t, s = .code t
  · obtain ⟨t, rfl⟩ := code
    rfl
  · rw [split_withoutComments] at member
    have blanked := mem_of_mem_joinCode member fun t eq => code ⟨t, eq⟩
    obtain ⟨r, -, rfl⟩ := List.mem_map.mp blanked
    exact r.isComment_blanked

/-- Taking the comments of a text away leaves none, keeps the quoted texts as they are, open ones
included, and makes a text from which there is nothing more to take away. -/
theorem stripped_once_for_all (text : List Char) :
    (∀ s ∈ split (withoutComments (split text)), s.isComment = false) ∧
      (split (withoutComments (split text))).filter Segment.isQuoted =
        (split text).filter Segment.isQuoted ∧
      withoutComments (split (withoutComments (split text))) = withoutComments (split text) := by
  have none : ∀ s ∈ split (withoutComments (split text)), s.isComment = false :=
    fun s => isComment_of_mem_split_withoutComments
  refine ⟨none, ?_, isReading_skipped.eq_of_no_comment none⟩
  rw [split_withoutComments, filter_joinCode fun _ => rfl, filter_isQuoted_map_blanked]

end QueryGate.Sql
