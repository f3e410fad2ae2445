import Mathlib.Data.List.Flatten
import Mathlib.Tactic.Tauto
import QueryGate.Proofs.Sql.Lexing
import QueryGate.Proofs.Text.Spacing
import QueryGate.Sql.Strip

/-!
# The readings of a query

A reading keeps what stands outside of comments and puts something between spaces in the place of
each comment: nothing, or the body of an executable one. So it neither cuts nor joins a word, it has
no words of its own, and it is not longer than the text.

## Main definitions

* `IsReading` — a contribution of each segment that makes up a reading

## Main results

* `words_withoutComments`, `words_asExecuted` — the words of the two readings
* `mem_wordsAt_asExecuted` — the words of a query as a server runs it, each with what follows it
* `hasSeparator_withoutComments`, `hasSeparator_asExecuted` — no reading has a separator of its own
* `length_withoutComments_le`, `length_asExecuted_le` — no reading is longer than the text
* `normalize_asExecuted_of_blank` — where bodies are blank, the two readings have one normal form
-/

namespace QueryGate.Sql

open Segment Text

variable {f : Segment → List Char} {text : List Char} {s : Segment} {segments : List Segment}

/-- The contribution of each segment to a reading: text outside of comments stays as it is, and what
stands for a comment begins and ends with a space. -/
structure IsReading (f : Segment → List Char) : Prop where
  keeps : ∀ s, s.isComment = false → f s = s.text
  opens : ∀ s, s.isComment = true → ∃ rest, f s = ' ' :: rest
  closes : ∀ s, s.isComment = true → ∃ front, f s = front ++ [' ']

theorem isReading_skipped : IsReading Segment.skipped where
  keeps s plain := by simp [skipped, plain]
  opens s comment := ⟨[], by simp [skipped, comment]⟩
  closes s comment := ⟨[], by simp [skipped, comment]⟩

theorem isReading_executed : IsReading Segment.executed where
  keeps s plain := by cases s <;> simp_all [executed, skipped, isComment]
  opens s comment := by cases s <;> simp_all [executed, skipped, isComment]
  closes s comment := by
    cases s with
    | executableComment mark version body closed => exact ⟨' ' :: body, rfl⟩
    | _ => exact ⟨[], by simp_all [executed, skipped, isComment]⟩

theorem isWordChar_space : isWordChar ' ' = false := isWordChar_of_isSpace isSpace_space

/-- No reading cuts or joins words. -/
theorem IsReading.apart (reading : IsReading f) (nonempty : ∀ s ∈ segments, s.text ≠ [])
    (apart : Apart (segments.map Segment.text)) : Apart (segments.map f) := by
  induction segments with
  | nil => trivial
  | cons s later ih =>
    have rest := fun r member => nonempty r (List.mem_cons_of_mem s member)
    refine ⟨?_, ih rest apart.2⟩
    cases comment : s.isComment with
    | true =>
      obtain ⟨front, eq⟩ := reading.closes s comment
      exact .of_endsInWord (by rw [eq, endsInWord_append_singleton, isWordChar_space])
    | false =>
      -- What follows begins as it did, or with the space in place of a comment.
      rw [reading.keeps s comment]
      intro ends
      have outside := apart.1 ends
      cases later with
      | nil => rfl
      | cons r later =>
        cases next : r.isComment with
        | true =>
          obtain ⟨tail, eq⟩ := reading.opens r next
          simp [eq, isWordChar_space]
        | false =>
          have more : r.text ≠ [] := rest r List.mem_cons_self
          simp only [List.map_cons, List.flatten_cons, reading.keeps r next,
            startsInWord_append more] at outside ⊢
          exact outside

theorem IsReading.apart_split (reading : IsReading f) (text : List Char) :
    Apart ((split text).map f) :=
  reading.apart (text_ne_nil_of_mem_split text) (Sql.apart_split text)

/-- Without comments a text is its own reading. -/
theorem IsReading.eq_of_no_comment (reading : IsReading f)
    (comments : ∀ s ∈ split text, s.isComment = false) : (split text).flatMap f = text := by
  conv_rhs => rw [← textOfAll_split text]
  exact List.flatMap_congr fun s member => reading.keeps s (comments s member)

/-- A reading begins as the text did or with the space in place of a comment. -/
theorem IsReading.head?_flatMap {c : Char} (reading : IsReading f)
    (nonempty : ∀ s ∈ segments, s.text ≠ []) (space : c ≠ ' ')
    (head : (segments.flatMap f).head? = some c) :
    (textOfAll segments).head? = some c := by
  cases segments with
  | nil => cases head
  | cons s later =>
    cases comment : s.isComment with
    | true =>
      obtain ⟨tail, eq⟩ := reading.opens s comment
      simp only [List.flatMap_cons, eq, List.cons_append, List.head?_cons,
        Option.some.injEq] at head
      exact absurd head.symm space
    | false =>
      obtain ⟨d, t, text⟩ := List.exists_cons_of_ne_nil (nonempty s List.mem_cons_self)
      simpa [reading.keeps s comment, text] using head

theorem IsReading.flatMap_consCode (reading : IsReading f) (c : Char) (segments : List Segment) :
    (consCode c segments).flatMap f = c :: segments.flatMap f := by
  have same (t : List Char) : f (.code t) = t := reading.keeps (.code t) rfl
  unfold consCode
  split <;> simp [same]

/-! ### Words -/

/-- The words that come from a comment are those of its body. -/
theorem wordsAt_executed_of_comment (comment : s.isComment = true) :
    wordsAt s.executed = (wordsAt s.body).map (.mapAfter (· ++ [' '])) := by
  cases s with
  | executableComment mark version body closed =>
    have cut : CleanCut body [' '] := .of_startsInWord isWordChar_space
    have blank : wordsAt [' '] = [] := wordsAt_cons_of_not_word isWordChar_space
    rw [executed, List.cons_append, wordsAt_cons_of_not_word isWordChar_space, wordsAt_append cut,
      blank, List.append_nil, Segment.body]
  | lineComment mark inside => exact wordsAt_cons_of_not_word isWordChar_space
  | blockComment inside closed => exact wordsAt_cons_of_not_word isWordChar_space
  | _ => cases comment

theorem words_skipped (s : Segment) :
    words s.skipped = if s.isComment then [] else words s.text := by
  unfold skipped
  split
  · exact words_cons_of_not_word isWordChar_space
  · rfl

theorem words_executed (s : Segment) :
    words s.executed = if s.isComment then words s.body else words s.text := by
  cases comment : s.isComment with
  | true => simp [words, wordsAt_executed_of_comment comment, Function.comp_def]
  | false => simp [isReading_executed.keeps s comment]

/-- Without its comments a query keeps the words outside of them. -/
theorem words_withoutComments (text : List Char) :
    words (withoutComments (split text)) =
      (split text).flatMap fun s => if s.isComment then [] else words s.text := by
  rw [withoutComments, words_flatMap (isReading_skipped.apart_split text)]
  simp only [words_skipped]

/-- As a server runs it, a query has the words outside of comments and those of the bodies. -/
theorem words_asExecuted (text : List Char) :
    words (asExecuted (split text)) =
      (split text).flatMap fun s => if s.isComment then words s.body else words s.text := by
  rw [asExecuted, words_flatMap (isReading_executed.apart_split text)]
  simp only [words_executed]

/-- Taking comments away takes words away and changes none. -/
theorem words_withoutComments_sublist (text : List Char) :
    (words (withoutComments (split text))).Sublist (words text) := by
  rw [words_withoutComments, words_eq_flatMap_split]
  refine List.Sublist.flatMap_right _ fun s _ => ?_
  split
  · exact List.nil_sublist _
  · exact List.Sublist.refl _

theorem countWord_withoutComments_le (capitals text : List Char) :
    countWord capitals (withoutComments (split text)) ≤ countWord capitals text :=
  (words_withoutComments_sublist text).countP_le

/-- The words outside of comments stay when the bodies of comments are put in. -/
theorem words_withoutComments_sublist_asExecuted (text : List Char) :
    (words (withoutComments (split text))).Sublist (words (asExecuted (split text))) := by
  rw [words_withoutComments, words_asExecuted]
  refine List.Sublist.flatMap_right _ fun s _ => ?_
  split
  · exact List.nil_sublist _
  · exact List.Sublist.refl _

/-- The bodies of comments add no word of a kind that none of them has. -/
theorem countWord_asExecuted {capitals : List Char}
    (noWord : ∀ s ∈ split text, countWord capitals s.body = 0) :
    countWord capitals (asExecuted (split text)) =
      countWord capitals (withoutComments (split text)) := by
  rw [countWord, countWord, words_asExecuted, words_withoutComments, List.countP_flatMap,
    List.countP_flatMap]
  congr 1
  refine List.map_congr_left fun s member => ?_
  have noBody := noWord s member
  rw [countWord] at noBody
  simp only [Function.comp_apply]
  split
  · rw [noBody, List.countP_nil]
  · rfl

/-- The words of a query as a server runs it, each with what follows it there. -/
theorem mem_wordsAt_asExecuted {w : WordAt} :
    w ∈ wordsAt (asExecuted (split text)) ↔
      ∃ front s later, split text = front ++ s :: later ∧
        ∃ u ∈ wordsAt s.executed, w = u.mapAfter (· ++ asExecuted later) :=
  mem_wordsAt_flatMap (isReading_executed.apart_split text)

/-! ### Semicolons and lengths -/

theorem not_isBlank_of_comment (comment : s.isComment = true) : isBlank s.text = false := by
  cases s with
  | lineComment mark inside => cases mark <;> rfl
  | blockComment inside closed => rfl
  | executableComment mark version body closed => rfl
  | _ => cases comment

/-- White space holds no comment, so every reading leaves it alone. -/
theorem IsReading.eq_of_isBlank (reading : IsReading f)
    (blank : isBlank (textOfAll segments) = true) :
    segments.flatMap f = textOfAll segments := by
  induction segments with
  | nil => rfl
  | cons s later ih =>
    rw [textOfAll_cons, isBlank_append, Bool.and_eq_true] at blank
    have plain : s.isComment = false := by
      by_contra comment
      simp [not_isBlank_of_comment (by simpa using comment)] at blank
    rw [List.flatMap_cons, textOfAll_cons, reading.keeps s plain, ih blank.2]

/-- Where nothing follows a semicolon in a text, nothing does in a reading whose comments bring no
semicolon along. -/
theorem IsReading.hasSeparator_eq_false (reading : IsReading f)
    (clean : ∀ s ∈ segments, s.isComment = true → ';' ∉ f s)
    (noSeparator : hasSeparator (textOfAll segments) = false) :
    hasSeparator (segments.flatMap f) = false := by
  induction segments with
  | nil => rfl
  | cons s later ih =>
    rw [textOfAll_cons, hasSeparator_append, Bool.or_eq_false_iff, Bool.or_eq_false_iff]
      at noSeparator
    have rest := ih (fun r member => clean r (List.mem_cons_of_mem s member)) noSeparator.2
    rw [List.flatMap_cons, hasSeparator_append, rest, Bool.or_false]
    cases comment : s.isComment with
    | true =>
      have free := clean s List.mem_cons_self comment
      simp [hasSeparator_of_notMem free, free]
    | false =>
      rw [reading.keeps s comment, noSeparator.1.1, Bool.false_or]
      by_cases semicolon : ';' ∈ s.text
      · -- Only white space follows, so there is no comment left to be replaced.
        have blank : isBlank (textOfAll later) = true := by simpa [semicolon] using noSeparator.1.2
        rw [reading.eq_of_isBlank blank, blank]
        simp
      · simp [semicolon]

theorem hasSeparator_withoutComments (noSeparator : hasSeparator text = false) :
    hasSeparator (withoutComments (split text)) = false := by
  refine isReading_skipped.hasSeparator_eq_false (fun s _ comment => ?_)
    (by rwa [textOfAll_split])
  simp [skipped, comment]

theorem hasSeparator_asExecuted (clean : ∀ s ∈ split text, ';' ∉ s.body)
    (noSeparator : hasSeparator text = false) : hasSeparator (asExecuted (split text)) = false := by
  refine isReading_executed.hasSeparator_eq_false (fun s member comment => ?_)
    (by rwa [textOfAll_split])
  have free := clean s member
  cases s <;> simp_all [executed, skipped, isComment, body]

theorem skipped_subset (s : Segment) : s.skipped ⊆ ' ' :: s.text := by
  rw [skipped]
  split <;> simp

theorem executed_subset (s : Segment) : s.executed ⊆ ' ' :: s.text := by
  cases s with
  | executableComment mark version body closed =>
    intro c
    simp only [executed, Segment.text, List.mem_append, List.mem_cons, List.not_mem_nil]
    tauto
  | _ => exact skipped_subset _

/-- A reading that takes all it holds from the segments has no characters of its own but spaces. -/
theorem mem_of_mem_reading (within : ∀ s, f s ⊆ ' ' :: s.text) {c : Char} (visible : c ≠ ' ')
    (member : c ∈ (split text).flatMap f) : c ∈ text := by
  obtain ⟨s, segment, inside⟩ := List.mem_flatMap.mp member
  rw [← textOfAll_split text]
  exact List.mem_flatMap.mpr ⟨s, segment, (List.mem_cons.mp (within s inside)).resolve_left visible⟩

theorem length_executed_le (s : Segment) : s.executed.length ≤ s.text.length := by
  cases s with
  | code t => simp [executed, skipped, isComment]
  | quoted mark inside closed => simp [executed, skipped, isComment]
  | lineComment mark inside =>
    cases mark <;> simp [executed, skipped, isComment, Segment.text, LineMark.text]
  | blockComment inside closed => simp [executed, skipped, isComment, Segment.text]
  | executableComment mark version body closed =>
    cases mark <;> simp [executed, Segment.text, ExecutableMark.text] <;> omega

theorem length_skipped_le (s : Segment) : s.skipped.length ≤ s.text.length := by
  rw [skipped]
  split
  · next comment =>
    have visible : s.text ≠ [] := by
      intro empty
      have other := not_isBlank_of_comment comment
      rw [empty] at other
      cases other
    exact List.length_pos_of_ne_nil visible
  · rfl

/-- A reading that puts nothing longer in the place of any segment is not longer than the text. -/
theorem length_reading_le (shorter : ∀ s : Segment, (f s).length ≤ s.text.length)
    (text : List Char) : ((split text).flatMap f).length ≤ text.length := by
  conv_rhs => rw [← textOfAll_split text]
  induction split text with
  | nil => rfl
  | cons s later ih =>
    simp only [textOfAll, List.flatMap_cons, List.length_append] at ih ⊢
    have here := shorter s
    omega

/-- Without its comments a query is not longer than it was. -/
theorem length_withoutComments_le (text : List Char) :
    (withoutComments (split text)).length ≤ text.length :=
  length_reading_le length_skipped_le text

/-- As a server runs it, a query is not longer than it was. -/
theorem length_asExecuted_le (text : List Char) :
    (asExecuted (split text)).length ≤ text.length :=
  length_reading_le length_executed_le text

/-! ### Blank bodies -/

theorem collapse_asExecuted_of_blank (blank : ∀ s ∈ segments, isBlank s.body = true) :
    collapse (asExecuted segments) = collapse (withoutComments segments) := by
  induction segments with
  | nil => rfl
  | cons s later ih =>
    have rest := ih fun r member => blank r (List.mem_cons_of_mem s member)
    have here := blank s List.mem_cons_self
    rw [asExecuted, withoutComments, List.flatMap_cons, List.flatMap_cons]
    cases s with
    | executableComment mark version body closed =>
      have spaces : ∀ c ∈ ' ' :: body ++ [' '], isSpace c = true := by
        have inside : ∀ c ∈ body, isSpace c = true := List.all_eq_true.mp here
        simpa [or_imp, forall_and] using inside
      rw [executed, collapse_blank_append (by simp) spaces]
      exact collapse_append_congr rest [' ']
    | _ => exact collapse_append_congr rest _

/-- Where the bodies of all executable comments are white space, both readings have one normal
form. -/
theorem normalize_asExecuted_of_blank (blank : ∀ s ∈ segments, isBlank s.body = true) :
    normalize (asExecuted segments) = normalize (withoutComments segments) := by
  rw [Text.normalize, Text.normalize, collapse_asExecuted_of_blank blank]

end QueryGate.Sql
