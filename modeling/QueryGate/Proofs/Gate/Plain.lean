import QueryGate.Proofs.Gate.Modes
import QueryGate.Proofs.Gate.Scan
import QueryGate.Proofs.Sql.Readings

/-!
# Texts without comments and encoded literals

A text that is put together, or loses white space, can be followed character by character. What it
means that no comment and no encoded literal begins anywhere comes out the same in this way as for
the segments of the text.

## Main definitions

* `Plain` — from a mode on, no comment and no encoded literal begins
* `Unmarked` — the same for literals among segments

## Main results

* `noEncodedLiteral_iff` — encoded literals, found from left to right
* `plain_reading` — a reading is plain if what it puts in the place of comments is
* `plain_asExecuted`, `plain_withoutComments` — the two readings of a query
* `unmarked_of_plain` — in a plain text the lexer finds no comment and no encoded literal
* `plain_normalize_iff` — the normal form of a text is plain if the text is
-/

namespace QueryGate.Gate

open Sql Text Segment

variable {text rest word : List Char} {c : Char} {segments later : List Segment}

/-! ### Encoded literals from left to right -/

/-- No mark of an encoded literal ends where a literal in single quotes begins; `word` is the word
that ends where the segments begin. -/
def Unmarked : List Char → List Segment → Prop
  | _, [] => True
  | word, .code t :: later => Unmarked (t.foldl nextWord word) later
  | word, .quoted mark _ _ :: later =>
    (mark = .single → upperText word ∉ Keyword.encodedStringMarks) ∧ Unmarked [] later
  | _, _ :: later => Unmarked [] later

theorem upperText_nil_notMem : upperText [] ∉ Keyword.encodedStringMarks := by decide

theorem unmarked_iff_opensString (word : List Char)
    (other : ∀ t later, segments ≠ .code t :: later) :
    Unmarked word segments ↔
      (opensString segments = true → upperText word ∉ Keyword.encodedStringMarks) ∧
        Unmarked [] segments := by
  cases segments with
  | nil => simp [Unmarked, opensString]
  | cons s later =>
    cases s with
    | code t => exact absurd rfl (other t later)
    | quoted mark inside closed =>
      cases mark <;> simp [Unmarked, opensString, upperText_nil_notMem]
    | _ => simp [Unmarked, opensString]

theorem unmarked_consCode : Unmarked word (consCode c segments) ↔
    Unmarked (nextWord word c) segments := by
  unfold consCode
  split
  · rfl
  · rfl

theorem encodedLiteral?_code_eq_none_iff {t : List Char} {found : WordAt} :
    encodedLiteral? (.code t) found later = none ↔
      (found.after = [] → opensString later = true →
        upperText found.word ∉ Keyword.encodedStringMarks) := by
  simp only [encodedLiteral?, ite_eq_right_iff, reduceCtorEq, imp_false, Bool.and_eq_true,
    List.contains_iff_mem, List.isEmpty_iff, not_and]
  tauto

theorem noEncodedLiteral_iff
    (chain : segments.IsChain fun s r => ∀ t u, s = .code t → r ≠ .code u) :
    NoEncodedLiteral segments ↔ Unmarked [] segments := by
  induction segments with
  | nil => rfl
  | cons s later ih =>
    obtain ⟨first, tail⟩ := List.isChain_cons.mp chain
    rw [NoEncodedLiteral, ih tail]
    cases s with
    | code t =>
      -- No code follows, so the word that ends this piece is all that the next segment can see.
      have other : ∀ u rest, later ≠ .code u :: rest := by
        rintro u rest rfl
        exact first (.code u) rfl t u rfl rfl
      have last := forall_wordsAt_after_nil (a := t) (p := fun word =>
        opensString later = true → upperText word ∉ Keyword.encodedStringMarks)
        (fun _ => upperText_nil_notMem) [] (by simp)
      rw [List.nil_append] at last
      rw [Unmarked, unmarked_iff_opensString (t.foldl nextWord []) other, ← last]
      simp only [encodedLiteral?_code_eq_none_iff, Segment.text]
    | quoted mark inside closed => simp [encodedLiteral?, Unmarked, upperText_nil_notMem]
    | _ => simp [encodedLiteral?, Unmarked]

/-- A text without blocked tokens has no encoded literal, found from left to right. -/
theorem unmarked_of_findBlocked {tables : List (List Char)}
    (clean : findBlocked tables text = none) : Unmarked [] (split text) :=
  (noEncodedLiteral_iff (isChain_split text)).mp (findBlocked_eq_none_iff.mp clean).2

/-! ### Plain texts -/

/-- Outside of quotes no comment begins, and no literal in single quotes right after the mark of an
encoded literal. The mode and the word that ends there are those at the beginning of the text. -/
def Plain : Mode → List Char → List Char → Prop
  | _, _, [] => True
  | mode, word, c :: rest =>
    (mode = .code → ¬ OpensComment c rest ∧
      (c = QuoteMark.single.char → upperText word ∉ Keyword.encodedStringMarks)) ∧
    Plain (mode.next c) (nextWord word c) rest

/-- What a plain text satisfies at each character outside of quotes. -/
def PlainAt (word : List Char) (c : Char) (rest : List Char) : Prop :=
  ¬ OpensComment c rest ∧
    (c = QuoteMark.single.char → upperText word ∉ Keyword.encodedStringMarks)

theorem plain_iff_outside {mode : Mode} :
    Plain mode word text ↔ Outside PlainAt mode word text := by
  induction text generalizing mode word with
  | nil => rfl
  | cons c text ih => exact and_congr_right' ih

theorem plainAt_quote_iff {mark : QuoteMark} :
    PlainAt word mark.char rest ↔
      (mark = .single → upperText word ∉ Keyword.encodedStringMarks) := by
  have single : mark.char = QuoteMark.single.char ↔ mark = .single := by
    cases mark <;> simp [QuoteMark.char]
  simp [PlainAt, not_opensComment_quote, single]

/-- After no word every quote is plain. -/
theorem plainAt_nil_quote (mark : QuoteMark) (rest : List Char) : PlainAt [] mark.char rest :=
  plainAt_quote_iff.mpr fun _ => upperText_nil_notMem

theorem ignoresLayout_plainAt : IgnoresLayout PlainAt where
  spaces {word c rest} space := by
    refine ⟨not_opensComment_of_isSpace space, ?_⟩
    rintro rfl
    exact absurd space (by decide)
  behind same := and_congr_left' (not_congr (opensComment_congr same))

theorem plain_code_space : Plain .code word (' ' :: rest) ↔ Plain .code [] rest := by
  rw [plain_iff_outside, plain_iff_outside]
  exact outside_of_isSpace ignoresLayout_plainAt isSpace_space

/-- A quoted segment is plain where it does not follow a mark, and so is what comes after it. An
open one has nothing after it. -/
theorem plain_quoted_segment_iff {mark : QuoteMark} {t more : List Char}
    (last : (mark.scan t).closed = false → more = []) :
    Plain .code word
        ((Segment.quoted mark (mark.scan t).inside (mark.scan t).closed).text ++ more) ↔
      (mark = .single → upperText word ∉ Keyword.encodedStringMarks) ∧ Plain .code [] more := by
  rw [plain_iff_outside, plain_iff_outside, outside_quoted_segment_iff plainAt_nil_quote last,
    plainAt_quote_iff]

/-! ### From segments to characters -/

section Reading

variable {f : Segment → List Char} {tail : List Char}

/-- What can follow some segments: nothing, or, where each of them is closed, a space and more plain
text. -/
def EndsPlainly (segments : List Segment) (tail : List Char) : Prop :=
  tail = [] ∨ (∀ s ∈ segments, s.isTerminated = true) ∧ ∃ more, tail = ' ' :: more ∧
    Plain .code [] more

theorem EndsPlainly.of_imp (ends : EndsPlainly segments tail)
    (closed : (∀ s ∈ segments, s.isTerminated = true) → ∀ s ∈ later, s.isTerminated = true) :
    EndsPlainly later tail :=
  ends.imp_right (And.imp_left closed)

/-- What a reading puts in the place of a comment is plain wherever plain text follows. -/
def InsertsPlain (f : Segment → List Char) (s : Segment) : Prop :=
  s.isComment = true → ∀ word more, Plain .code [] more → Plain .code word (f s ++ more)

theorem insertsPlain_code (t : List Char) : InsertsPlain f (.code t) :=
  fun comment => nomatch comment

theorem insertsPlain_skipped (s : Segment) : InsertsPlain Segment.skipped s := by
  intro comment word more plain
  have space : s.skipped = [' '] := by rw [skipped, comment, if_pos rfl]
  rw [space, List.singleton_append, plain_code_space]
  exact plain

theorem unmarked_of_comment {s : Segment} (comment : s.isComment = true) :
    Unmarked word (s :: later) ↔ Unmarked [] later := by
  cases s with
  | code t => cases comment
  | quoted mark inside closed => cases comment
  | _ => rfl

/-- Code that begins no segment begins none in a reading. -/
theorem not_opensComment_reading (reading : IsReading f) (ends : EndsPlainly segments tail)
    (nonempty : ∀ s ∈ segments, s.text ≠ []) (noComment : ¬ OpensComment c (textOfAll segments)) :
    ¬ OpensComment c (segments.flatMap f ++ tail) := by
  have head : ∀ d, d ≠ ' ' → (segments.flatMap f ++ tail).head? = some d →
      (textOfAll segments).head? = some d := by
    intro d space first
    cases empty : segments.flatMap f with
    | cons e t => exact reading.head?_flatMap nonempty space (by simpa [empty] using first)
    | nil =>
      rw [empty, List.nil_append] at first
      obtain rfl | ⟨-, more, rfl, -⟩ := ends
      · cases first
      · exact absurd (Option.some.inj first).symm space
  rintro (hash | ⟨dash, second⟩ | ⟨slash, second⟩)
  · exact noComment (.inl hash)
  · exact noComment (.inr (.inl ⟨dash, head '-' (by decide) second⟩))
  · exact noComment (.inr (.inr ⟨slash, head '*' (by decide) second⟩))

/-- A reading is plain if what it puts in the place of comments is. -/
theorem plain_reading (reading : IsReading f) (inserts : ∀ s ∈ split text, InsertsPlain f s)
    (ends : EndsPlainly (split text) tail) (unmarked : Unmarked word (split text)) :
    Plain .code word ((split text).flatMap f ++ tail) := by
  induction text using split_induction generalizing word with
  | nil =>
    obtain rfl | ⟨-, more, rfl, plain⟩ := ends
    · trivial
    · exact plain_code_space.mpr plain
  | segment text s rest found ih =>
    have later : Unmarked [] (split rest) → Plain .code [] ((split rest).flatMap f ++ tail) :=
      ih (fun r member => inserts r (List.mem_cons_of_mem s member))
        (ends.of_imp fun closed r member => closed r (List.mem_cons_of_mem s member))
    rw [List.flatMap_cons, List.append_assoc]
    cases comment : s.isComment with
    | true =>
      exact inserts s List.mem_cons_self comment word _
        (later ((unmarked_of_comment comment).mp unmarked))
    | false =>
      obtain ⟨mark, t, rfl, same⟩ | ⟨t, rfl, rfl, rfl⟩ | ⟨mark, t, rfl, rfl, rfl⟩ :=
        segmentAt?_cases found
      · obtain ⟨rfl, rfl⟩ := Prod.mk.inj same
        cases comment
      · rw [isComment_commentOf] at comment
        cases comment
      · rw [reading.keeps _ comment, plain_quoted_segment_iff]
        · exact ⟨unmarked.1, later unmarked.2⟩
        -- An open quote takes the rest of the text, and then nothing is to follow.
        · intro closed
          rw [mark.rest_scan_of_not_closed t closed, split_nil]
          obtain rfl | ⟨terminated, -⟩ := ends
          · rfl
          · exact absurd (terminated _ List.mem_cons_self) (by simp [isTerminated, closed])
  | code c rest unopened ih =>
    -- The next character can only have become the space in place of a comment.
    obtain ⟨quote, opens⟩ := segmentAt?_eq_none_iff_not_opensComment.mp unopened
    have closedCode : ∀ t, (Segment.code t).isTerminated = true := fun _ => rfl
    have ends : EndsPlainly (split rest) tail :=
      ends.of_imp (forall_mem_consCode_iff closedCode).mp
    rw [reading.flatMap_consCode, List.cons_append]
    refine ⟨fun _ => ⟨?_, ?_⟩, ?_⟩
    · rw [← textOfAll_split rest] at opens
      exact not_opensComment_reading reading ends (text_ne_nil_of_mem_split rest) opens
    · rintro rfl
      rw [QuoteMark.ofChar?_char] at quote
      cases quote
    · have mode : Mode.code.next c = .code := by rw [Mode.next, quote]; rfl
      rw [mode]
      exact ih ((forall_mem_consCode_iff insertsPlain_code).mp inserts) ends
        (unmarked_consCode.mp unmarked)

end Reading

/-- Without its comments a query is plain if no literal follows the mark of an encoded one. -/
theorem plain_withoutComments (unmarked : Unmarked word (split text)) :
    Plain .code word (withoutComments (split text)) := by
  have plain := plain_reading isReading_skipped (fun s _ => insertsPlain_skipped s) (.inl rfl)
    unmarked
  rwa [List.append_nil] at plain

/-- A comment may be replaced by what is plain when more plain text follows it behind a space. -/
def PlainBody (s : Segment) : Prop :=
  ∀ more, Plain .code [] more → Plain .code [] (s.body ++ ' ' :: more)

theorem PlainBody.insertsPlain {s : Segment} (body : PlainBody s) :
    InsertsPlain Segment.executed s := by
  intro comment word more plain
  cases s with
  | executableComment mark version inside closed =>
    have inserted : Plain .code [] (inside ++ ' ' :: more) := body more plain
    simpa [executed, plain_code_space] using inserted
  | lineComment mark inside => exact plain_code_space.mpr plain
  | blockComment inside closed => exact plain_code_space.mpr plain
  | _ => cases comment

/-- A query as a server runs it is plain if the bodies that are put in are. -/
theorem plain_asExecuted {tail : List Char} (bodies : ∀ s ∈ split text, PlainBody s)
    (ends : EndsPlainly (split text) tail) (unmarked : Unmarked word (split text)) :
    Plain .code word (asExecuted (split text) ++ tail) :=
  plain_reading isReading_executed (fun s member => (bodies s member).insertsPlain) ends unmarked

/-- A text that the lexer reads as code and closed quotes can stand before other plain text. -/
theorem plain_append_of_no_comment (comments : ∀ s ∈ split text, s.isComment = false)
    (closed : ∀ s ∈ split text, s.isTerminated = true) (unmarked : Unmarked [] (split text))
    (more : Plain .code [] rest) : Plain .code [] (text ++ ' ' :: rest) := by
  have same : (split text).flatMap skipped = text := isReading_skipped.eq_of_no_comment comments
  have plain := plain_reading isReading_skipped (fun s _ => insertsPlain_skipped s)
    (.inr ⟨closed, rest, rfl, more⟩) unmarked
  rwa [same] at plain

/-! ### From characters to segments -/

/-- In a plain text the lexer finds no comment and no encoded literal. -/
theorem unmarked_of_plain (plain : Plain .code word text) :
    (∀ s ∈ split text, s.isComment = false) ∧ Unmarked word (split text) := by
  induction text using split_induction generalizing word with
  | nil => exact ⟨by simp, trivial⟩
  | segment text s rest found ih =>
    obtain ⟨mark, t, rfl, same⟩ | ⟨t, rfl, rfl, rfl⟩ | ⟨mark, t, rfl, rfl, rfl⟩ :=
      segmentAt?_cases found
    -- A comment would begin where the text is plain.
    · obtain ⟨c, rest, eq, opens⟩ := opensComment_of_lineMark mark t
      rw [eq] at plain
      exact absurd opens (plain.1 rfl).1
    · exact absurd (.inr (.inr ⟨rfl, rfl⟩)) (plain.1 rfl).1
    · rw [← text_append_of_segmentAt? found,
        plain_quoted_segment_iff (mark.rest_scan_of_not_closed t)] at plain
      obtain ⟨comments, unmarked⟩ := ih plain.2
      exact ⟨by simpa [isComment] using comments, plain.1, unmarked⟩
  | code c rest unopened ih =>
    obtain ⟨quote, -⟩ := segmentAt?_eq_none_iff_not_opensComment.mp unopened
    have mode : Mode.code.next c = .code := by rw [Mode.next, quote]; rfl
    obtain ⟨comments, unmarked⟩ := ih (mode ▸ plain.2)
    exact ⟨(forall_mem_consCode_iff fun _ => rfl).mpr comments, unmarked_consCode.mpr unmarked⟩

/-! ### The end and the layout of a text -/

variable {mode : Mode} {a b : List Char}

theorem Plain.of_append (plain : Plain mode word (a ++ b)) : Plain mode word a := by
  induction a generalizing mode word with
  | nil => trivial
  | cons c a ih =>
    refine ⟨fun code => ⟨fun opens => ?_, (plain.1 code).2⟩, ih plain.2⟩
    exact (plain.1 code).1 (opens.append b)

theorem Plain.of_isPrefix (plain : Plain mode word b) (front : a <+: b) : Plain mode word a := by
  obtain ⟨rest, rfl⟩ := front
  exact plain.of_append

/-- The normal form of a text is plain if the text is. -/
theorem plain_normalize_iff : Plain .code [] (normalize a) ↔ Plain .code [] a := by
  rw [plain_iff_outside, plain_iff_outside, outside_normalize_iff ignoresLayout_plainAt]

end QueryGate.Gate
