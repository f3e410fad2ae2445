import Mathlib.Data.List.Chain
import QueryGate.Proofs.Text.Words
import QueryGate.Sql.Split

/-!
# What the lexer reads

Splitting loses nothing: the texts of the segments make up the text. A segment begins exactly where
a quote or a comment mark stands outside of the segments before it, and where it ends depends on
nothing but the text from there on. So the segments of a text are the only way to cut it such that
each piece is what the lexer reads at its place, up to pieces of code that stand side by side.

## Main definitions

* `NoOpening` — no quote and no comment begins within a piece of code
* `Reads` — each of some segments is what the lexer reads at its place
* `joinCode` — neighbouring pieces of code made one

## Main results

* `textOfAll_split` — nothing is lost
* `segmentAt?_cases` — the three ways in which a segment can begin
* `segmentAt?_eq_none_iff` — where no segment begins
* `split_textOfAll` — segments that read as such are found again
* `segmentAt?_of_split` — each segment that is found is read at its place
* `words_eq_flatMap_split`, `mem_wordsAt_iff` — the words of a text are the words of its segments
-/

namespace QueryGate.Sql

open Segment Text

variable {text rest : List Char} {segment : Segment} {segments : List Segment} {c d : Char}

/-! ### Scans -/

@[simp] theorem Enclosed.inside_after (front : List Char) (e : Enclosed) :
    (e.after front).inside = front ++ e.inside := rfl

@[simp] theorem Enclosed.closed_after (front : List Char) (e : Enclosed) :
    (e.after front).closed = e.closed := rfl

@[simp] theorem textOfAll_nil : textOfAll [] = [] := rfl

@[simp] theorem textOfAll_cons (s : Segment) (segments : List Segment) :
    textOfAll (s :: segments) = s.text ++ textOfAll segments := List.flatMap_cons

theorem textOfAll_append (front back : List Segment) :
    textOfAll (front ++ back) = textOfAll front ++ textOfAll back := List.flatMap_append

/-- A scan for a closing quote takes nothing away but that quote. -/
theorem QuoteMark.scan_text (mark : QuoteMark) (text : List Char) :
    (mark.scan text).inside ++ (if (mark.scan text).closed then [mark.char] else []) ++
      (mark.scan text).rest = text := by
  fun_induction QuoteMark.scan mark text with
  | case7 c d text escapes other ih =>
    rw [Enclosed.inside_after, Enclosed.closed_after, Enclosed.rest_after, List.singleton_append,
      List.cons_append, List.cons_append, ih]
  | _ => simp_all

theorem QuoteMark.rest_scan_of_not_closed (mark : QuoteMark) (text : List Char)
    (h : (mark.scan text).closed = false) : (mark.scan text).rest = [] := by
  fun_induction QuoteMark.scan mark text <;> simp_all

/-- A scan for the end of a comment takes nothing away but that end. -/
theorem scanBlock_text (text : List Char) :
    (scanBlock text).inside ++ blockEnd (scanBlock text).closed ++ (scanBlock text).rest =
      text := by
  fun_induction scanBlock text with
  | case4 c d text other ih => simpa using ih
  | _ => simp_all [blockEnd]

theorem rest_scanBlock_of_not_closed (text : List Char) (h : (scanBlock text).closed = false) :
    (scanBlock text).rest = [] := by
  fun_induction scanBlock text <;> simp_all

/-- A character other than the star begins no end of a comment. -/
theorem scanBlock_cons (h : c ≠ '*') (text : List Char) :
    scanBlock (c :: text) = (scanBlock text).after [c] := by
  cases text with
  | nil => rfl
  | cons d text => simp [scanBlock, h]

theorem text_commentOf (inside : List Char) (closed : Bool) :
    (commentOf inside closed).text = '/' :: '*' :: inside ++ blockEnd closed := by
  unfold commentOf
  split <;> simp [commentOf.executable, Segment.text, ExecutableMark.text]

theorem isComment_commentOf (inside : List Char) (closed : Bool) :
    (commentOf inside closed).isComment = true := by
  unfold commentOf
  split <;> rfl

/-! ### Where a segment begins -/

theorem QuoteMark.ofChar?_eq_some_iff {mark : QuoteMark} :
    QuoteMark.ofChar? c = some mark ↔ c = mark.char := by
  simp only [ofChar?, beq_iff_eq]
  constructor
  · split_ifs <;> rintro ⟨⟩ <;> assumption
  · rintro rfl
    cases mark <;> rfl

theorem QuoteMark.ofChar?_char (mark : QuoteMark) : QuoteMark.ofChar? mark.char = some mark :=
  ofChar?_eq_some_iff.mpr rfl

theorem QuoteMark.char_injective : Function.Injective QuoteMark.char := by
  intro mark mark' same
  have both := mark'.ofChar?_char
  rw [← same, mark.ofChar?_char] at both
  exact Option.some.inj both

theorem segmentAt?_block (text : List Char) :
    segmentAt? ('/' :: '*' :: text) =
      some (commentOf (scanBlock text).inside (scanBlock text).closed, (scanBlock text).rest) := rfl

theorem segmentAt?_quote (mark : QuoteMark) (text : List Char) :
    segmentAt? (mark.char :: text) =
      some (.quoted mark (mark.scan text).inside (mark.scan text).closed,
        (mark.scan text).rest) := by
  cases mark <;> rfl

/-- The three ways in which a segment can begin. -/
theorem segmentAt?_cases (h : segmentAt? text = some (segment, rest)) :
    (∃ mark t, text = LineMark.text mark ++ t ∧ (segment, rest) = lineFrom mark t) ∨
    (∃ t, text = '/' :: '*' :: t ∧
      segment = commentOf (scanBlock t).inside (scanBlock t).closed ∧ rest = (scanBlock t).rest) ∨
    (∃ mark t, text = QuoteMark.char mark :: t ∧
      segment = .quoted mark (mark.scan t).inside (mark.scan t).closed ∧
        rest = (mark.scan t).rest) := by
  fun_cases segmentAt? text with
  | case1 => simp [segmentAt?] at h
  | case2 t => exact .inl ⟨.hash, t, rfl, (Option.some.inj h).symm⟩
  | case3 t => exact .inl ⟨.dashes, t, rfl, (Option.some.inj h).symm⟩
  | case4 t =>
    obtain ⟨rfl, rfl⟩ := Prod.mk.inj (Option.some.inj h)
    exact .inr (.inl ⟨t, rfl, rfl, rfl⟩)
  | case5 c t h₁ h₂ h₃ =>
    rw [segmentAt?.eq_5 c t h₁ h₂ h₃] at h
    obtain ⟨mark, isMark, same⟩ := Option.map_eq_some_iff.mp h
    obtain ⟨rfl, rfl⟩ := Prod.mk.inj same
    obtain rfl := QuoteMark.ofChar?_eq_some_iff.mp isMark
    exact .inr (.inr ⟨mark, t, rfl, rfl, rfl⟩)

/-- No segment begins at a character that is neither a quote nor the first character of a comment
mark. -/
theorem segmentAt?_eq_none_iff :
    segmentAt? (c :: text) = none ↔
      QuoteMark.ofChar? c = none ∧ c ≠ '#' ∧ ¬ (c = '-' ∧ text.head? = some '-') ∧
        ¬ (c = '/' ∧ text.head? = some '*') := by
  constructor
  · intro unopened
    refine ⟨?_, ?_, ?_, ?_⟩
    · by_contra quote
      obtain ⟨mark, isMark⟩ := Option.ne_none_iff_exists'.mp quote
      rw [QuoteMark.ofChar?_eq_some_iff.mp isMark, segmentAt?_quote] at unopened
      cases unopened
    · rintro rfl
      cases unopened
    · rintro ⟨rfl, second⟩
      obtain ⟨t, rfl⟩ := List.head?_eq_some_iff.mp second
      cases unopened
    · rintro ⟨rfl, second⟩
      obtain ⟨t, rfl⟩ := List.head?_eq_some_iff.mp second
      cases unopened
  · rintro ⟨quote, hash, dashes, block⟩
    rw [segmentAt?.eq_5, quote, Option.map_none]
    · rintro rfl
      exact absurd rfl hash
    · rintro t rfl rfl
      exact dashes ⟨rfl, rfl⟩
    · rintro t rfl rfl
      exact block ⟨rfl, rfl⟩

/-- A segment and the text after it make up the text. -/
theorem text_append_of_segmentAt? (h : segmentAt? text = some (segment, rest)) :
    segment.text ++ rest = text := by
  obtain ⟨mark, t, rfl, same⟩ | ⟨t, rfl, rfl, rfl⟩ | ⟨mark, t, rfl, rfl, rfl⟩ := segmentAt?_cases h
  · obtain ⟨rfl, rfl⟩ := Prod.mk.inj same
    simp [Segment.text]
  · rw [text_commentOf]
    simpa using scanBlock_text t
  · simpa [Segment.text] using mark.scan_text t

/-- A segment that is not code begins with a quote or a comment mark. -/
theorem not_code_of_segmentAt? (h : segmentAt? text = some (segment, rest)) (code : List Char) :
    segment ≠ .code code := by
  obtain ⟨mark, t, rfl, same⟩ | ⟨t, rfl, rfl, rfl⟩ | ⟨mark, t, rfl, rfl, rfl⟩ := segmentAt?_cases h
  · obtain ⟨rfl, rfl⟩ := Prod.mk.inj same
    simp
  · intro eq
    have comment := isComment_commentOf (scanBlock t).inside (scanBlock t).closed
    rw [eq] at comment
    cases comment
  · simp

/-! ### The pass over a text -/

@[simp] theorem split_nil : split [] = [] := by
  rw [split]
  rfl

theorem split_of_segmentAt? (h : segmentAt? text = some (segment, rest)) :
    split text = segment :: split rest := by
  rw [split]
  split
  · next s r found =>
    obtain ⟨rfl, rfl⟩ := Prod.mk.inj (Option.some.inj (h.symm.trans found))
    rfl
  · next unopened => simp [h] at unopened

theorem split_cons (h : segmentAt? (c :: text) = none) :
    split (c :: text) = consCode c (split text) := by
  rw [split]
  split
  · next s r found => simp [h] at found
  · rfl

/-- What holds of the empty text, and of a text if it holds of what follows its first segment or its
first code character, holds of every text and its segments. -/
@[elab_as_elim]
theorem split_induction {motive : List Char → List Segment → Prop} (nil : motive [] [])
    (segment : ∀ text s rest, segmentAt? text = some (s, rest) → motive rest (split rest) →
      motive text (s :: split rest))
    (code : ∀ c rest, segmentAt? (c :: rest) = none → motive rest (split rest) →
      motive (c :: rest) (consCode c (split rest)))
    (text : List Char) : motive text (split text) := by
  fun_induction split text with
  | case1 text s rest found ih => exact segment text s rest found ih
  | case2 => exact nil
  | case3 c rest unopened ih => exact code c rest unopened ih

theorem textOfAll_consCode (c : Char) (segments : List Segment) :
    textOfAll (consCode c segments) = c :: textOfAll segments := by
  unfold consCode
  split <;> simp [Segment.text]

/-- Splitting loses nothing. -/
theorem textOfAll_split (text : List Char) : textOfAll (split text) = text := by
  induction text using split_induction with
  | nil => rfl
  | segment text s rest found ih => rw [textOfAll_cons, ih, text_append_of_segmentAt? found]
  | code c rest unopened ih => rw [textOfAll_consCode, ih]

theorem mem_consCode {s : Segment} (h : s ∈ consCode c segments) :
    (∃ code, s = .code (c :: code)) ∨ s ∈ segments := by
  unfold consCode at h
  split at h
  · next t rest =>
    obtain rfl | member := List.mem_cons.mp h
    · exact .inl ⟨t, rfl⟩
    · exact .inr (List.mem_cons_of_mem _ member)
  · obtain rfl | member := List.mem_cons.mp h
    · exact .inl ⟨[], rfl⟩
    · exact .inr member

/-- What holds of every piece of code holds of the segments with one more character if it holds of
the segments. -/
theorem forall_mem_consCode_iff {p : Segment → Prop} (code : ∀ t, p (.code t)) :
    (∀ s ∈ consCode c segments, p s) ↔ ∀ s ∈ segments, p s := by
  unfold consCode
  split
  · simp [code]
  · simp [code]

theorem QuoteMark.isWordChar_char (mark : QuoteMark) : isWordChar mark.char = false := by
  cases mark <;> decide

/-- A segment that is not code begins with a delimiter, and so outside of words. -/
theorem startsInWord_text_of_not_code {s : Segment} (h : ∀ code, s ≠ .code code)
    (more : List Char) :
    startsInWord (s.text ++ more) = false ∧ s.text ≠ [] := by
  cases s with
  | code t => exact absurd rfl (h t)
  | quoted mark inside closed => exact ⟨mark.isWordChar_char, by simp [Segment.text]⟩
  | lineComment mark inside => cases mark <;> exact ⟨rfl, by simp [Segment.text, LineMark.text]⟩
  | blockComment inside closed => exact ⟨rfl, by simp [Segment.text]⟩
  | executableComment mark version body closed => exact ⟨rfl, by simp [Segment.text]⟩

/-- No segment is empty. -/
theorem text_ne_nil_of_mem_split (text : List Char) : ∀ s ∈ split text, s.text ≠ [] := by
  induction text using split_induction with
  | nil => simp
  | segment text s rest found ih =>
    intro r member
    obtain rfl | inside := List.mem_cons.mp member
    · exact (startsInWord_text_of_not_code (not_code_of_segmentAt? found) []).2
    · exact ih r inside
  | code c rest unopened ih =>
    intro r member
    obtain ⟨code, rfl⟩ | inside := mem_consCode member
    · simp [Segment.text]
    · exact ih r inside

/-- A segment and what follows it share no word. -/
theorem cleanCut_of_segmentAt? (h : segmentAt? text = some (segment, rest)) :
    CleanCut segment.text rest := by
  obtain ⟨mark, t, rfl, same⟩ | ⟨t, rfl, rfl, rfl⟩ | ⟨mark, t, rfl, rfl, rfl⟩ := segmentAt?_cases h
  · -- A line comment ends at a line end or where the text does.
    obtain ⟨rfl, rfl⟩ := Prod.mk.inj same
    refine .of_startsInWord ?_
    have stop := List.head?_dropWhile_not (fun c => c != '\n') t
    cases tail : t.dropWhile (fun c => c != '\n') with
    | nil => rfl
    | cons c rest =>
      obtain rfl : c = '\n' := by simpa [tail] using stop
      exact isWordChar_of_isSpace (by decide)
  · rw [text_commentOf]
    cases closed : (scanBlock t).closed with
    | true =>
      refine .of_endsInWord ?_
      rw [blockEnd, if_pos rfl, endsInWord_append (List.cons_ne_nil _ _)]
      rfl
    | false =>
      rw [rest_scanBlock_of_not_closed t closed]
      exact .nil_right
  · cases closed : (mark.scan t).closed with
    | true =>
      refine .of_endsInWord ?_
      rw [Segment.text, if_pos rfl, endsInWord_append (by simp)]
      simp [endsInWord, mark.isWordChar_char]
    | false =>
      rw [mark.rest_scan_of_not_closed t closed]
      exact .nil_right

theorem flatten_map_text (segments : List Segment) :
    (segments.map Segment.text).flatten = textOfAll segments := rfl

/-- No word crosses the boundary of a segment. -/
theorem apart_split (text : List Char) : Apart ((split text).map Segment.text) := by
  induction text using split_induction with
  | nil => trivial
  | segment text s rest found ih =>
    refine ⟨?_, ih⟩
    rw [flatten_map_text, textOfAll_split]
    exact cleanCut_of_segmentAt? found
  | code c rest unopened ih =>
    have nonempty := text_ne_nil_of_mem_split rest
    generalize split rest = segments at ih nonempty
    unfold consCode
    split
    · next t later =>
      -- The code goes on, so it ends as it did before the character was put in front.
      refine ⟨fun ends => ih.1 ?_, ih.2⟩
      have more : t ≠ [] := nonempty (.code t) List.mem_cons_self
      rwa [Segment.text, ← List.singleton_append, endsInWord_append more] at ends
    · next other =>
      refine ⟨.of_startsInWord ?_, ih⟩
      cases segments with
      | nil => rfl
      | cons s later =>
        refine (startsInWord_text_of_not_code (fun code eq => ?_) _).1
        exact other code later (by rw [eq])

/-- The words of a text are the words of its segments. -/
theorem words_eq_flatMap_split (text : List Char) :
    words text = (split text).flatMap fun s => words s.text := by
  rw [← words_flatMap (apart_split text), ← textOfAll, textOfAll_split]

/-- The words of a text, each found in its segment. -/
theorem mem_wordsAt_iff {w : WordAt} :
    w ∈ wordsAt text ↔
      ∃ front s later, split text = front ++ s :: later ∧
        ∃ u ∈ wordsAt s.text, w = u.mapAfter (· ++ textOfAll later) := by
  conv_lhs => rw [← textOfAll_split text, textOfAll, mem_wordsAt_flatMap (apart_split text)]
  rfl

/-- No two pieces of code stand side by side. -/
theorem isChain_split (text : List Char) :
    (split text).IsChain fun s r => ∀ t u, s = .code t → r ≠ .code u := by
  induction text using split_induction with
  | nil => exact .nil
  | segment text s rest found ih =>
    exact List.isChain_cons.mpr
      ⟨fun _ _ t _ eq => absurd eq (not_code_of_segmentAt? found t), ih⟩
  | code c rest unopened ih =>
    -- A letter of code joins the code behind it, if there is any.
    generalize split rest = segments at ih
    unfold consCode
    split
    · next t later =>
      obtain ⟨first, tail⟩ := List.isChain_cons.mp ih
      exact List.isChain_cons.mpr ⟨fun r next _ u _ => first r next t u rfl, tail⟩
    · next other =>
      refine List.isChain_cons.mpr ⟨fun r next t u _ eq => ?_, ih⟩
      obtain ⟨later, rfl⟩ := List.head?_eq_some_iff.mp next
      exact other u later (by rw [eq])

/-! ### Segments that read as such -/

/-- No quote and no comment begins within a piece of code that stands before the given text. -/
def NoOpening : List Char → List Char → Prop
  | [], _ => True
  | c :: t, rest => segmentAt? (c :: (t ++ rest)) = none ∧ NoOpening t rest

/-- Each of some segments is what the lexer reads at its place. Pieces of code may stand side by
side. -/
def Reads : List Segment → Prop
  | [] => True
  | .code t :: later => NoOpening t (textOfAll later) ∧ Reads later
  | s :: later => segmentAt? (s.text ++ textOfAll later) = some (s, textOfAll later) ∧ Reads later

/-- Segments with neighbouring pieces of code made one. -/
def joinCode : List Segment → List Segment
  | [] => []
  | .code t :: later => t.foldr consCode (joinCode later)
  | s :: later => s :: joinCode later

theorem reads_cons_of_not_code {s : Segment} (h : ∀ code, s ≠ .code code) :
    Reads (s :: segments) ↔
      segmentAt? (s.text ++ textOfAll segments) = some (s, textOfAll segments) ∧
        Reads segments := by
  cases s with
  | code t => exact absurd rfl (h t)
  | _ => rfl

theorem joinCode_cons_of_not_code {s : Segment} (h : ∀ code, s ≠ .code code) :
    joinCode (s :: segments) = s :: joinCode segments := by
  cases s with
  | code t => exact absurd rfl (h t)
  | _ => rfl

theorem split_code_append {code : List Char} (h : NoOpening code rest) :
    split (code ++ rest) = code.foldr consCode (split rest) := by
  induction code with
  | nil => rfl
  | cons c code ih => rw [List.cons_append, split_cons h.1, ih h.2, List.foldr_cons]

/-- Segments that read as such are found again, with neighbouring pieces of code made one. -/
theorem split_textOfAll (h : Reads segments) : split (textOfAll segments) = joinCode segments := by
  induction segments with
  | nil => exact split_nil
  | cons s later ih =>
    by_cases code : ∃ t, s = .code t
    · obtain ⟨t, rfl⟩ := code
      rw [textOfAll_cons, Segment.text, split_code_append h.1, ih h.2, joinCode]
    · have other : ∀ t, s ≠ .code t := fun t eq => code ⟨t, eq⟩
      obtain ⟨found, reads⟩ := (reads_cons_of_not_code other).mp h
      rw [textOfAll_cons, split_of_segmentAt? found, ih reads, joinCode_cons_of_not_code other]

theorem reads_consCode (h : segmentAt? (c :: textOfAll segments) = none) (reads : Reads segments) :
    Reads (consCode c segments) := by
  unfold consCode
  split
  · next t later => exact ⟨⟨by simpa [Segment.text] using h, reads.1⟩, reads.2⟩
  · exact ⟨⟨h, trivial⟩, reads⟩

/-- What the lexer reads reads as such. -/
theorem reads_split (text : List Char) : Reads (split text) := by
  induction text using split_induction with
  | nil => trivial
  | segment text s rest found ih =>
    refine (reads_cons_of_not_code (not_code_of_segmentAt? found)).mpr ⟨?_, ih⟩
    rwa [textOfAll_split, text_append_of_segmentAt? found]
  | code c rest unopened ih => exact reads_consCode (by rwa [textOfAll_split]) ih

theorem Reads.of_append {front back : List Segment} (reads : Reads (front ++ back)) :
    Reads back := by
  induction front with
  | nil => exact reads
  | cons s front ih =>
    cases s with
    | _ => exact ih reads.2

/-- Where a quote or a comment begins right where a segment does, that segment is the one that the
lexer reads there. -/
theorem segmentAt?_of_split {front later : List Segment} {s : Segment}
    (eq : split text = front ++ s :: later)
    (starts : segmentAt? (textOfAll (s :: later)) ≠ none) :
    segmentAt? (textOfAll (s :: later)) = some (s, textOfAll later) := by
  have reads : Reads (s :: later) := .of_append (eq ▸ reads_split text)
  cases s with
  | code t =>
    have more : t ≠ [] := text_ne_nil_of_mem_split text (.code t) (by simp [eq])
    obtain ⟨c, t, rfl⟩ := List.exists_cons_of_ne_nil more
    exact absurd reads.1.1 starts
  | _ => exact reads.1

end QueryGate.Sql
