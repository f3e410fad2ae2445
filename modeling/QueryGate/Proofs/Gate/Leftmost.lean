import QueryGate.Proofs.Gate.Scan
import QueryGate.Proofs.Sql.Decomposition
import QueryGate.Proofs.Text.Occurrences

/-!
# The leftmost blocked token

The scan goes through the segments of a text and through the words of each. What it finds can be
said about the text as a whole: which words stand in it, what follows each of them, and where
literals in single quotes begin. No word crosses the boundary of a segment, so the words of the
segments are the words of the text in their order, and the token that is found is the leftmost one.

## Main definitions

* `literals` — what is left of a text where literals in single quotes begin
* `tokenAt?` — the token that a word of a text makes, given these literals
* `LiteralAt`, `Names` — the same, said of the place of a word and without a search

## Main results

* `findBlocked_eq_findSome?` — the scan as a search through the words of the text
* `findBlocked_iff_leftmost` — what the scan finds
-/

namespace QueryGate.Gate

open Sql Text Segment

variable {tables : List (List Char)} {text before word after token rest : List Char}
  {found : WordAt} {s : Segment} {segments later : List Segment}

/-! ### Literals in single quotes -/

/-- The places where a literal in single quotes begins, each given by what is left of the text. -/
def literals : List Segment → List (List Char)
  | [] => []
  | s :: later =>
    if opensString (s :: later) then textOfAll (s :: later) :: literals later else literals later

theorem mem_literals_iff :
    rest ∈ literals segments ↔
      ∃ front later, segments = front ++ later ∧ opensString later = true ∧
        textOfAll later = rest := by
  induction segments with
  | nil =>
    simp only [literals, List.not_mem_nil, false_iff]
    rintro ⟨front, later, eq, opens, -⟩
    obtain ⟨-, rfl⟩ := List.append_eq_nil_iff.mp eq.symm
    cases opens
  | cons s segments ih =>
    have here : rest ∈ literals (s :: segments) ↔
        (opensString (s :: segments) = true ∧ rest = textOfAll (s :: segments)) ∨
          rest ∈ literals segments := by
      rw [literals]
      split <;> simp_all
    rw [here, ih]
    constructor
    · rintro (⟨opens, rfl⟩ | ⟨front, later, rfl, opens, rfl⟩)
      · exact ⟨[], s :: segments, rfl, opens, rfl⟩
      · exact ⟨s :: front, later, rfl, opens, rfl⟩
    · rintro ⟨front, later, eq, opens, rfl⟩
      cases front with
      | nil =>
        obtain rfl : s :: segments = later := eq
        exact .inl ⟨opens, rfl⟩
      | cons r front =>
        obtain ⟨rfl, rfl⟩ := List.cons.inj eq
        exact .inr ⟨front, later, rfl, opens, rfl⟩

theorem literals_subset_cons : literals later ⊆ literals (s :: later) := by
  rw [literals]
  split
  · exact List.subset_cons_self _ _
  · exact List.Subset.refl _

theorem length_le_of_mem_literals (member : rest ∈ literals segments) :
    rest.length ≤ (textOfAll segments).length := by
  obtain ⟨front, later, rfl, -, rfl⟩ := mem_literals_iff.mp member
  rw [textOfAll_append, List.length_append]
  exact Nat.le_add_left _ _

/-- A literal that is all of a text is its first segment. -/
theorem opensString_of_mem_literals (nonempty : ∀ s ∈ segments, s.text ≠ [])
    (member : textOfAll segments ∈ literals segments) : opensString segments = true := by
  obtain ⟨front, later, rfl, opens, whole⟩ := mem_literals_iff.mp member
  cases front with
  | nil => exact opens
  | cons s front =>
    -- A segment in front would make the text longer.
    have positive := List.length_pos_of_ne_nil (nonempty s List.mem_cons_self)
    have length := congrArg List.length whole
    rw [List.cons_append, textOfAll_cons, textOfAll_append, List.length_append,
      List.length_append] at length
    omega

/-- A word of a segment touches a literal if it ends the segment and the next one is a literal. -/
theorem mem_literals_cons_iff (nonempty : ∀ r ∈ later, r.text ≠ [])
    (member : found ∈ wordsAt s.text) :
    found.after ++ textOfAll later ∈ literals (s :: later) ↔
      found.after = [] ∧ opensString later = true := by
  constructor
  · intro touches
    -- What follows a word of `s` is too short to be all of the text from `s` on.
    have shorter := length_after_lt member
    have inLater : found.after ++ textOfAll later ∈ literals later := by
      rw [literals] at touches
      split at touches
      · refine (List.mem_cons.mp touches).resolve_left fun whole => ?_
        have length := congrArg List.length whole
        rw [textOfAll_cons, List.length_append, List.length_append] at length
        omega
      · exact touches
    have ends : found.after = [] := by
      have bound := length_le_of_mem_literals inLater
      rw [List.length_append] at bound
      exact List.eq_nil_of_length_eq_zero (by omega)
    rw [ends, List.nil_append] at inLater
    exact ⟨ends, opensString_of_mem_literals nonempty inLater⟩
  · rintro ⟨ends, opens⟩
    rw [ends, List.nil_append]
    exact literals_subset_cons (mem_literals_iff.mpr ⟨[], later, rfl, opens, rfl⟩)

/-- Where a literal follows a segment that ends inside a word, the segment is code. -/
theorem exists_code_of_opensString (reads : Reads (s :: later)) (opens : opensString later = true)
    (inside : endsInWord s.text = true) : ∃ t, s = .code t := by
  by_contra other
  have other : ∀ t, s ≠ .code t := fun t eq => other ⟨t, eq⟩
  have fits := fits_of_segmentAt? ((reads_cons_of_not_code other).mp reads).1
  have kind : s.piece.kind ≠ .code := fun code => by
    obtain ⟨t, rfl⟩ := s.kind_eq_code_iff.mp code
    exact other t rfl
  obtain ⟨t, eq⟩ : ∃ t, textOfAll later = '\x27' :: t := by
    cases later with
    | nil => cases opens
    | cons r later =>
      cases r with
      | quoted mark inside closed =>
        cases mark with
        | single => exact ⟨_, rfl⟩
        | _ => cases opens
      | _ => cases opens
  -- A quote is neither the end of a line nor that of the text.
  rcases fits.ends_of_endsInWord kind inside with none | first
  · simp [eq] at none
  · simp [eq] at first

/-! ### The scan as a search through the words -/

/-- The token that a word of a text makes, given where literals in single quotes begin. -/
def tokenAt? (tables literals : List (List Char)) (found : WordAt) : Option (List Char) :=
  (blockedWord? tables found []).or <|
    if upperText found.word ∈ Keyword.encodedStringMarks ∧ found.after ∈ literals then
      some (upperText found.word ++ "'...'".toList)
    else none

theorem endsInWord_of_after_nil (member : found ∈ wordsAt text) (ends : found.after = []) :
    endsInWord text = true := by
  obtain ⟨before, occurs⟩ := exists_occurs member
  obtain ⟨front, c, eq⟩ := (List.eq_nil_or_concat' found.word).resolve_left occurs.nonempty
  rw [occurs.text_eq, ends, List.append_nil, eq, ← List.append_assoc, endsInWord_append_singleton]
  exact occurs.all_word c (by simp [eq])

/-- What makes a word the mark of an encoded literal, read off the whole text. -/
theorem encodedLiteral?_eq (reads : Reads (s :: later)) (nonempty : ∀ r ∈ later, r.text ≠ [])
    (member : found ∈ wordsAt s.text) :
    encodedLiteral? s found later =
      if upperText found.word ∈ Keyword.encodedStringMarks ∧
          found.after ++ textOfAll later ∈ literals (s :: later) then
        some (upperText found.word ++ "'...'".toList)
      else none := by
  simp only [mem_literals_cons_iff nonempty member]
  by_cases code : ∃ t, s = .code t
  · obtain ⟨t, rfl⟩ := code
    simp [encodedLiteral?, and_assoc]
  · have absent : ¬ (found.after = [] ∧ opensString later = true) := fun ⟨ends, opens⟩ =>
      code (exists_code_of_opensString reads opens (endsInWord_of_after_nil member ends))
    rw [if_neg fun marked => absent marked.2]
    cases s with
    | code t => exact absurd ⟨t, rfl⟩ code
    | _ => rfl

theorem findBlockedInSegment_eq (reads : Reads (s :: later))
    (nonempty : ∀ r ∈ later, r.text ≠ []) :
    findBlockedInSegment tables s later =
      ((wordsAt s.text).map (.mapAfter (· ++ textOfAll later))).findSome?
        (tokenAt? tables (literals (s :: later))) := by
  rw [List.findSome?_map]
  refine findSome?_congr_of_mem fun found member => ?_
  rw [blockedWord?_eq, encodedLiteral?_eq reads nonempty member]
  rfl

theorem findBlockedInSegments_eq (reads : Reads segments)
    (nonempty : ∀ s ∈ segments, s.text ≠ []) (apart : Apart (segments.map Segment.text)) :
    findBlockedInSegments tables segments =
      (wordsAt (textOfAll segments)).findSome? (tokenAt? tables (literals segments)) := by
  induction segments with
  | nil => rfl
  | cons s later ih =>
    have nonemptyLater := fun r member => nonempty r (List.mem_cons_of_mem s member)
    have unfold : findBlockedInSegments tables (s :: later) =
        (findBlockedInSegment tables s later).or (findBlockedInSegments tables later) := by
      rw [findBlockedInSegments]
      cases findBlockedInSegment tables s later <;> rfl
    have readsLater : Reads later := by
      rw [← List.singleton_append] at reads
      exact reads.of_append
    have rest := ih readsLater nonemptyLater apart.2
    have cut : CleanCut s.text (textOfAll later) := apart.1
    rw [unfold, findBlockedInSegment_eq reads nonemptyLater, rest, textOfAll_cons,
      wordsAt_append cut, List.findSome?_append]
    -- For a word of a later segment, a literal in front of it does not matter.
    congr 1
    refine findSome?_congr_of_mem fun w member => ?_
    have shorter := length_after_lt member
    have same : w.after ∈ literals later ↔ w.after ∈ literals (s :: later) := by
      rw [literals]
      split
      · refine ⟨List.mem_cons_of_mem _, fun touches => ?_⟩
        refine (List.mem_cons.mp touches).resolve_left fun whole => ?_
        rw [whole, textOfAll_cons, List.length_append] at shorter
        omega
      · rfl
    simp only [tokenAt?, same]

/-- The scan of a text is a search through its words. -/
theorem findBlocked_eq_findSome? (tables : List (List Char)) (text : List Char) :
    findBlocked tables text =
      (wordsAt text).findSome? (tokenAt? tables (literals (split text))) := by
  rw [findBlocked, findBlockedInSegments_eq (reads_split text) (text_ne_nil_of_mem_split text)
    (apart_split text), textOfAll_split]

/-! ### What makes a word a blocked token -/

/-- A literal in single quotes begins behind some part of a text. -/
def LiteralAt (text place : List Char) : Prop :=
  ∃ front inside closed later, split text = front ++ .quoted .single inside closed :: later ∧
    textOfAll front = place

/-- A word that is reported as it is: it is blocked everywhere, a function that is not called, or a
system schema before a dot. -/
def Named (tables : List (List Char)) (found : WordAt) : Prop :=
  Forbidden tables found.word ∨ UncalledFunction found ∨ QualifiesBySchema found

/-- A word at its place in a text is blocked, and is reported as the given token. -/
inductive Names (tables : List (List Char)) (text before word after : List Char) : List Char → Prop
  | alone (named : Named tables ⟨word, after⟩) :
      Names tables text before word after (upperText word)
  | called (other : ¬ Named tables ⟨word, after⟩) (calls : CallsEncoding ⟨word, after⟩) :
      Names tables text before word after (upperText word ++ "()".toList)
  | literal (other : ¬ Named tables ⟨word, after⟩)
      (mark : upperText word ∈ Keyword.encodedStringMarks)
      (touches : LiteralAt text (before ++ word)) :
      Names tables text before word after (upperText word ++ "'...'".toList)

theorem opensString_iff :
    opensString segments = true ↔
      ∃ inside closed later, segments = .quoted .single inside closed :: later := by
  fun_cases opensString segments <;> simp_all

theorem mem_literals_split_iff (eq : text = before ++ rest) :
    rest ∈ literals (split text) ↔ LiteralAt text before := by
  have whole := textOfAll_split text
  rw [mem_literals_iff]
  constructor
  · rintro ⟨front, later, segments, opens, left⟩
    obtain ⟨inside, closed, back, rfl⟩ := opensString_iff.mp opens
    refine ⟨front, inside, closed, back, segments, ?_⟩
    rw [segments, textOfAll_append, left, eq] at whole
    exact List.append_cancel_right whole
  · rintro ⟨front, inside, closed, back, segments, place⟩
    refine ⟨front, _, segments, opensString_iff.mpr ⟨inside, closed, back, rfl⟩, ?_⟩
    rw [segments, textOfAll_append, place, eq] at whole
    exact List.append_cancel_left whole

/-- The three sorts of words that are looked up by what follows them have nothing in common. -/
theorem not_named_of_callsEncoding (everywhere : ¬ Forbidden tables found.word)
    (calls : CallsEncoding found) : ¬ Named tables found := by
  rintro (forbidden | uncalled | schema)
  · exact everywhere forbidden
  · exact uncalled.2 calls.2
  · exact absurd (schema.2.symm.trans calls.2) (by decide)

theorem blockedWord?_eq_some_iff :
    blockedWord? tables found [] = some token ↔
      Named tables found ∧ token = upperText found.word ∨
        ¬ Named tables found ∧ CallsEncoding found ∧
          token = upperText found.word ++ "()".toList := by
  rw [blockedWord?_eq_ite]
  by_cases forbidden : Forbidden tables found.word
  · have named : Named tables found := .inl forbidden
    simp [forbidden, named, eq_comm]
  · by_cases calls : CallsEncoding found
    · have other := not_named_of_callsEncoding forbidden calls
      simp [forbidden, calls, other, eq_comm]
    · simp [forbidden, calls, Named, eq_comm]

/-- The marks of encoded literals are not names of functions. -/
theorem not_callsEncoding_of_mark (mark : upperText found.word ∈ Keyword.encodedStringMarks) :
    ¬ CallsEncoding found := by
  have apart : ∀ word ∈ Keyword.encodedStringMarks, word ∉ Keyword.encodingFunctions := by decide
  exact fun calls => apart _ mark calls.1

theorem tokenAt?_eq_some_iff (occurs : Occurs text before word after) :
    tokenAt? tables (literals (split text)) ⟨word, after⟩ = some token ↔
      Names tables text before word after token := by
  have place : after ∈ literals (split text) ↔ LiteralAt text (before ++ word) :=
    mem_literals_split_iff (by rw [occurs.text_eq, List.append_assoc])
  have passes : blockedWord? tables ⟨word, after⟩ [] = none ↔
      ¬ Named tables ⟨word, after⟩ ∧ ¬ CallsEncoding ⟨word, after⟩ := by
    rw [blockedWord?_eq_none_iff, not_blockedInContext_iff, Named]
    tauto
  rw [tokenAt?, Option.or_eq_some_iff, blockedWord?_eq_some_iff, passes]
  constructor
  · rintro ((⟨named, rfl⟩ | ⟨other, calls, rfl⟩) | ⟨⟨other, -⟩, marked⟩)
    · exact .alone named
    · exact .called other calls
    · obtain ⟨⟨mark, touches⟩, token⟩ := Option.ite_none_right_eq_some.mp marked
      obtain rfl := Option.some.inj token
      exact .literal other mark (place.mp touches)
  · intro names
    cases names with
    | alone named => exact .inl (.inl ⟨named, rfl⟩)
    | called other calls => exact .inl (.inr ⟨other, calls, rfl⟩)
    | literal other mark touches =>
      refine .inr ⟨⟨other, not_callsEncoding_of_mark mark⟩, ?_⟩
      rw [if_pos ⟨mark, place.mpr touches⟩]

theorem tokenAt?_eq_none_iff (occurs : Occurs text before word after) :
    tokenAt? tables (literals (split text)) ⟨word, after⟩ = none ↔
      ∀ token, ¬ Names tables text before word after token := by
  simp only [Option.eq_none_iff_forall_ne_some, ne_eq, tokenAt?_eq_some_iff occurs]

/-- The scan reports the leftmost word of the text that is blocked, wherever the segments of the
text begin and end, and reports nothing if no word is. -/
theorem findBlocked_iff_leftmost (tables : List (List Char)) (text : List Char) :
    (∀ token, findBlocked tables text = some token ↔
      ∃ before word after, Occurs text before word after ∧
        Names tables text before word after token ∧
        ∀ before' word' after', Occurs text before' word' after' → before'.length < before.length →
          ∀ token', ¬ Names tables text before' word' after' token') ∧
    (findBlocked tables text = none ↔
      ∀ before word after, Occurs text before word after →
        ∀ token, ¬ Names tables text before word after token) := by
  rw [findBlocked_eq_findSome?]
  constructor
  · intro token
    rw [findSome?_wordsAt_eq_some_iff]
    refine exists_congr fun before => exists_congr fun word => exists_congr fun after =>
      and_congr_right fun occurs => ?_
    refine and_congr (tokenAt?_eq_some_iff occurs) ?_
    refine forall₃_congr fun before' word' after' => forall₂_congr fun earlier _ => ?_
    exact tokenAt?_eq_none_iff earlier
  · rw [findSome?_wordsAt_eq_none_iff]
    exact forall₃_congr fun before word after => forall_congr' fun occurs =>
      tokenAt?_eq_none_iff occurs

/-- A word in a literal is blocked like any other, and it is found before one further right. -/
example : findBlocked [] "SELECT 'a drop' FROM x WHERE b = x'41'".toList = some "DROP".toList := by
  decide +kernel

end QueryGate.Gate
