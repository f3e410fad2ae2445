import QueryGate.Proofs.Sql.Decomposition
import QueryGate.Proofs.Sql.Readings
import QueryGate.Proofs.Text.Letters
import QueryGate.Proofs.Text.Padding

/-!
# Segments of a text with an ending

White space and a semicolon behind a text open nothing and close nothing. So they go into whatever
the text ends in: into code, into a literal or a comment that is open, or into a line comment up to
the end of its line, from where on they are code.

## Main definitions

* `codeAlone` — a text that is nothing but code, as segments
* `Padded` — what some segments become when a text is put behind them

## Main results

* `padded_split` — the segments of a text with an ending
* `Padded.textOfAll_eq`, `Padded.flatMap_eq` — the text and the readings of such segments
-/

namespace QueryGate.Sql

open Segment Text

variable {text rest tail : List Char} {segments segments' : List Segment} {mark : QuoteMark}
  {c : Char}

/-- A text that is nothing but code, as segments. -/
def codeAlone (text : List Char) : List Segment :=
  if text.isEmpty then [] else [.code text]

/-- What some segments become when a text is put behind them that opens and closes nothing. -/
inductive Padded (tail : List Char) : List Segment → List Segment → Prop
  | nil : Padded tail [] (codeAlone tail)
  | code (t : List Char) : Padded tail [.code t] [.code (t ++ tail)]
  | quoted (mark : QuoteMark) (inside : List Char) :
      Padded tail [.quoted mark inside false] [.quoted mark (inside ++ tail) false]
  | lineComment (mark : LineMark) (inside : List Char) {part rest : List Char}
      (whole : tail = part ++ rest) :
      Padded tail [.lineComment mark inside] (.lineComment mark (inside ++ part) :: codeAlone rest)
  | blockComment (inside : List Char) :
      Padded tail [.blockComment inside false] [.blockComment (inside ++ tail) false]
  | executableComment (mark : ExecutableMark) (version body : List Char) :
      Padded tail [.executableComment mark version body false]
        [.executableComment mark version (body ++ tail) false]
  | cons {s : Segment} {later later' : List Segment} (closed : s.isTerminated = true)
      (padded : Padded tail later later') : Padded tail (s :: later) (s :: later')

/-! ### Scans -/

/-- A scan that has found the end of a comment does not look at what follows. -/
theorem scanBlock_append_of_closed (closed : (scanBlock text).closed = true) (tail : List Char) :
    scanBlock (text ++ tail) = ⟨(scanBlock text).inside, true, (scanBlock text).rest ++ tail⟩ := by
  have whole := scanBlock_text text
  rw [closed, blockEnd, if_pos rfl, List.append_assoc] at whole
  have noEnd := not_isInfix_inside_scanBlock text
  have found := scanBlock_append_end noEnd ((scanBlock text).rest ++ tail)
  conv_lhs => rw [← whole]
  simpa using found

theorem inside_scanBlock_of_not_closed (unclosed : (scanBlock text).closed = false) :
    (scanBlock text).inside = text := by
  have whole := scanBlock_text text
  rwa [unclosed, rest_scanBlock_of_not_closed text unclosed, blockEnd, if_neg Bool.false_ne_true,
    List.append_nil, List.append_nil] at whole

/-- Without a slash no comment is closed. -/
theorem scanBlock_append_of_not_closed (unclosed : (scanBlock text).closed = false)
    (noSlash : '/' ∉ tail) : scanBlock (text ++ tail) = ⟨text ++ tail, false, []⟩ := by
  apply scanBlock_eq_self
  have noEnd := not_isInfix_inside_scanBlock text
  rw [inside_scanBlock_of_not_closed unclosed] at noEnd
  rintro ⟨front, back, eq⟩
  rcases List.append_eq_append_iff.mp eq with ⟨more, inText, -⟩ | ⟨more, whole, inTail⟩
  · exact noEnd ⟨front, more, inText.symm⟩
  · rcases List.eq_nil_or_concat' more with rfl | ⟨more, last, rfl⟩
    · exact noEnd ⟨front, [], by rw [whole, List.append_nil]; simp⟩
    · -- The end of the comment is a slash, so one would stand in what is put behind the text.
      have slash : last = '/' := by simpa using (congrArg List.getLast? whole).symm
      exact noSlash (by simp [inTail, slash])

theorem QuoteMark.scan_append_of_closed (closed : (mark.scan text).closed = true)
    (other : tail.head? ≠ some mark.char) :
    mark.scan (text ++ tail) = ⟨(mark.scan text).inside, true, (mark.scan text).rest ++ tail⟩ := by
  obtain ⟨encloses, single⟩ := mark.encloses_inside_scan text closed
  have whole := mark.scan_text text
  rw [closed, if_pos rfl, List.append_assoc] at whole
  have single : ((mark.scan text).rest ++ tail).head? ≠ some mark.char := by
    cases last : (mark.scan text).rest with
    | nil => exact other
    | cons d more => rwa [last] at single
  have found := mark.scan_append_mark encloses single
  conv_lhs => rw [← whole]
  simpa using found

theorem QuoteMark.inside_scan_of_not_closed (unclosed : (mark.scan text).closed = false) :
    (mark.scan text).inside = text := by
  have whole := mark.scan_text text
  rwa [unclosed, mark.rest_scan_of_not_closed text unclosed, if_neg Bool.false_ne_true,
    List.append_nil, List.append_nil] at whole

/-- Without marks and backslashes a text can stand between two marks. -/
theorem QuoteMark.encloses_of_notMem (noMark : mark.char ∉ tail) (noEscape : '\\' ∉ tail) :
    mark.Encloses tail := by
  induction tail with
  | nil => exact .nil
  | cons c tail ih =>
    rw [List.mem_cons, not_or] at noMark noEscape
    exact .other (Ne.symm noMark.1) (fun backslash => absurd backslash.symm noEscape.1)
      (ih noMark.2 noEscape.2)

theorem QuoteMark.scan_append_of_not_closed (unclosed : (mark.scan text).closed = false)
    (noMark : mark.char ∉ tail) (noEscape : '\\' ∉ tail) :
    mark.scan (text ++ tail) = ⟨text ++ tail, false, []⟩ := by
  have leavesOpen := mark.leavesOpen_inside_scan text unclosed
  rw [inside_scan_of_not_closed unclosed] at leavesOpen
  have encloses := mark.encloses_of_notMem noMark noEscape
  have found : mark.scan tail = ⟨tail, false, []⟩ := mark.scan_of_leavesOpen (.inl encloses)
  rcases leavesOpen with front | ⟨front, rfl, escapes, before⟩
  · rw [scan_append front, found]
    rfl
  · rw [List.append_assoc, List.singleton_append, scan_append before]
    cases tail with
    | nil => simp [scan, mark.char_ne_backslash.symm, Enclosed.after]
    | cons d tail =>
      -- The backslash protects one more character, and the rest opens and closes nothing.
      rw [List.mem_cons, not_or] at noMark noEscape
      have more := mark.scan_of_leavesOpen (.inl (mark.encloses_of_notMem noMark.2 noEscape.2))
      simp [scan, escapes, more, Enclosed.after]

/-! ### Code -/

theorem codeAlone_cons (c : Char) (t : List Char) : codeAlone (c :: t) = [.code (c :: t)] := rfl

theorem consCode_codeAlone (c : Char) (t : List Char) :
    consCode c (codeAlone t) = [.code (c :: t)] := by
  cases t <;> rfl

/-- One more character of code in front. -/
theorem Padded.consCode (padded : Padded tail segments segments') (c : Char) :
    Padded tail (consCode c segments) (consCode c segments') := by
  cases padded with
  | nil => exact consCode_codeAlone c tail ▸ .code [c]
  | code t => exact .code (c :: t)
  | quoted mark inside => exact .cons rfl (.quoted mark inside)
  | lineComment mark inside whole => exact .cons rfl (.lineComment mark inside whole)
  | blockComment inside => exact .cons rfl (.blockComment inside)
  | executableComment mark version body => exact .cons rfl (.executableComment mark version body)
  | @cons s later later' closed padded =>
    cases s with
    | code t => exact .cons rfl padded
    | _ => exact .cons rfl (.cons closed padded)

/-! ### The segments of a text with an ending -/

theorem char_notMem_of_isEnding (ending : IsEnding tail) (mark : QuoteMark) : mark.char ∉ tail := by
  cases mark <;> exact ending.notMem (by decide) (by decide)

/-- No character of an ending opens anything. -/
theorem segmentAt?_of_isEnding (ending : IsEnding (c :: tail)) (more : List Char) :
    segmentAt? (c :: more) = none := by
  have other {d : Char} (visible : isSpace d = false) (noSemicolon : d ≠ ';') : c ≠ d := by
    rintro rfl
    exact ending.notMem visible noSemicolon List.mem_cons_self
  refine segmentAt?_eq_none_iff.mpr ⟨?_, other (by decide) (by decide),
    fun dash => other (by decide) (by decide) dash.1,
    fun slash => other (by decide) (by decide) slash.1⟩
  by_contra quote
  obtain ⟨mark, isMark⟩ := Option.ne_none_iff_exists'.mp quote
  rw [QuoteMark.ofChar?_eq_some_iff.mp isMark] at ending
  exact char_notMem_of_isEnding ending mark List.mem_cons_self

/-- Where nothing opens in a text, nothing does when an ending follows. -/
theorem segmentAt?_append_ending (ending : IsEnding tail)
    (unopened : segmentAt? (c :: rest) = none) : segmentAt? (c :: (rest ++ tail)) = none := by
  have second {d : Char} (absent : d ∉ tail) (first : (rest ++ tail).head? = some d) :
      rest.head? = some d := by
    cases rest with
    | nil => exact absurd (List.mem_of_head? first) absent
    | cons e rest => exact first
  obtain ⟨quote, hash, dashes, block⟩ := segmentAt?_eq_none_iff.mp unopened
  refine segmentAt?_eq_none_iff.mpr ⟨quote, hash, fun both => ?_, fun both => ?_⟩
  · exact dashes (both.imp_right (second (ending.notMem (by decide) (by decide))))
  · exact block (both.imp_right (second (ending.notMem (by decide) (by decide))))

/-- An ending is code by itself. -/
theorem split_ending (ending : IsEnding tail) : split tail = codeAlone tail := by
  induction tail with
  | nil => exact split_nil
  | cons c tail ih =>
    rw [split_cons (segmentAt?_of_isEnding ending tail),
      ih (ending.of_isSuffix (List.suffix_cons c tail)), consCode_codeAlone, codeAlone_cons]

/-- Where no character of a text behind passes a test, a run of those that do ends as before. -/
theorem takeWhile_append_of_none {p : Char → Bool} (none : ∀ c ∈ tail, p c = false)
    (text : List Char) :
    (text ++ tail).takeWhile p = text.takeWhile p ∧
      (text ++ tail).dropWhile p = text.dropWhile p ++ tail := by
  induction text with
  | nil =>
    cases tail with
    | nil => exact ⟨rfl, rfl⟩
    | cons c tail => simp [none c List.mem_cons_self]
  | cons c text ih =>
    cases passes : p c with
    | true => simpa [passes] using ih
    | false => simp [passes]

theorem all_ne_newline (noEnd : '\n' ∉ text) : ∀ c ∈ text, (c != '\n') = true :=
  fun _ member => bne_iff_ne.mpr fun eq => noEnd (eq ▸ member)

/-- A line that ends in a text ends there whatever follows. -/
theorem lineFrom_append_of_mem (newline : '\n' ∈ text) (mark : LineMark) (tail : List Char) :
    lineFrom mark (text ++ tail) = ((lineFrom mark text).1, (lineFrom mark text).2 ++ tail) := by
  obtain ⟨line, rest, rfl, inside⟩ := List.eq_append_cons_of_mem newline
  have all := all_ne_newline inside
  simp [lineFrom, List.takeWhile_append_of_pos all, List.dropWhile_append_of_pos all]

/-- A line that goes on to the end of a text goes on into what follows. -/
theorem lineFrom_append_of_notMem (noEnd : '\n' ∉ text) (mark : LineMark) (tail : List Char) :
    lineFrom mark (text ++ tail) =
      (.lineComment mark (text ++ tail.takeWhile (· != '\n')), tail.dropWhile (· != '\n')) := by
  have all := all_ne_newline noEnd
  rw [lineFrom, List.takeWhile_append_of_pos all, List.dropWhile_append_of_pos all]

theorem ExecutableMark.notMem_of_isEnding (ending : IsEnding tail) (mark : ExecutableMark) :
    ∀ c ∈ mark.text, c ∉ tail := by
  have table : mark.text.all (fun c => !isSpace c && c != ';') = true := by
    cases mark <;> decide
  intro c member
  have visible := List.all_eq_true.mp table c member
  rw [Bool.and_eq_true, Bool.not_eq_true', bne_iff_ne] at visible
  exact ending.notMem visible.1 visible.2

theorem isTerminated_commentOf (inside : List Char) :
    (commentOf inside true).isTerminated = true := by
  unfold commentOf
  split <;> rfl

/-- What is put behind an open comment joins what stands inside of it. -/
theorem padded_commentOf (ending : IsEnding tail) (inside : List Char) :
    Padded tail [commentOf inside false] [commentOf (inside ++ tail) false] := by
  have executable (mark : ExecutableMark) (run : List Char) :
      Padded tail [commentOf.executable false mark run]
        [commentOf.executable false mark (run ++ tail)] := by
    -- An ending has no digits, so the version ends where it did.
    have noDigit : ∀ c ∈ tail, isDecimalDigit c = false := by
      intro c member
      by_contra digit
      have word := isWordChar_of_isDecimalDigit (by simpa using digit)
      rw [ending.isWordChar_eq_false member] at word
      cases word
    obtain ⟨version, body⟩ := takeWhile_append_of_none noDigit run
    rw [commentOf.executable, commentOf.executable, version, body]
    exact .executableComment mark _ _
  have marked (mark : ExecutableMark) (run : List Char) :
      commentOf (mark.text ++ run) false = commentOf.executable false mark run := by
    cases mark <;> rfl
  have unmarked {t : List Char} (noMark : ∀ mark : ExecutableMark, ¬ mark.text <+: t) :
      commentOf t false = .blockComment t false := by
    refine commentOf_of_no_mark fun mark found => noMark mark ?_
    rw [blockEnd, if_neg Bool.false_ne_true, List.append_nil] at found
    exact (List.cons_prefix_cons.mp (List.cons_prefix_cons.mp found).2).2
  by_cases begins : ∃ mark : ExecutableMark, mark.text <+: inside
  · obtain ⟨mark, run, rfl⟩ := begins
    rw [List.append_assoc, marked, marked]
    exact executable mark run
  · have noMark : ∀ mark : ExecutableMark, ¬ mark.text <+: inside := not_exists.mp begins
    have noMarkToo : ∀ mark : ExecutableMark, ¬ mark.text <+: inside ++ tail := fun mark found =>
      noMark mark (isPrefix_of_isPrefix_append (mark.notMem_of_isEnding ending) found)
    rw [unmarked noMark, unmarked noMarkToo]
    exact .blockComment inside

/-- An ending goes into the last segment of a text, or stands behind it as code. -/
theorem padded_split (ending : IsEnding tail) (text : List Char) :
    Padded tail (split text) (split (text ++ tail)) := by
  -- Along the scan: a closed segment ends before the ending is seen, an open one is the last.
  induction text using split_induction with
  | nil =>
    rw [List.nil_append, split_ending ending]
    exact .nil
  | segment text s rest found ih =>
    obtain ⟨mark, t, rfl, same⟩ | ⟨t, rfl, rfl, rfl⟩ | ⟨mark, t, rfl, rfl, rfl⟩ :=
      segmentAt?_cases found
    · obtain ⟨rfl, rfl⟩ := Prod.mk.inj same
      have found : segmentAt? (mark.text ++ t ++ tail) = some (lineFrom mark (t ++ tail)) := by
        cases mark <;> rfl
      by_cases newline : '\n' ∈ t
      · rw [lineFrom_append_of_mem newline] at found
        rw [split_of_segmentAt? found]
        exact .cons rfl ih
      · -- The line goes on behind the text, up to a line end if the ending has one.
        have all := all_ne_newline newline
        have suffix : tail.dropWhile (· != '\n') <:+ tail := List.dropWhile_suffix _
        rw [lineFrom_append_of_notMem newline] at found
        rw [split_of_segmentAt? found, split_ending (ending.of_isSuffix suffix),
          List.takeWhile_eq_self_iff.mpr all, List.dropWhile_eq_nil_iff.mpr all, split_nil]
        exact .lineComment mark t List.takeWhile_append_dropWhile.symm
    · rw [List.cons_append, List.cons_append]
      have found := segmentAt?_block (t ++ tail)
      cases closed : (scanBlock t).closed with
      | true =>
        rw [scanBlock_append_of_closed closed] at found
        rw [split_of_segmentAt? found]
        exact .cons (isTerminated_commentOf _) ih
      | false =>
        have noSlash : '/' ∉ tail := ending.notMem (by decide) (by decide)
        rw [scanBlock_append_of_not_closed closed noSlash] at found
        rw [split_of_segmentAt? found, rest_scanBlock_of_not_closed t closed,
          inside_scanBlock_of_not_closed closed, split_nil]
        exact padded_commentOf ending t
    · rw [List.cons_append]
      have found := segmentAt?_quote mark (t ++ tail)
      cases closed : (mark.scan t).closed with
      | true =>
        have other : tail.head? ≠ some mark.char := fun first =>
          char_notMem_of_isEnding ending mark (List.mem_of_head? first)
        rw [QuoteMark.scan_append_of_closed closed other] at found
        rw [split_of_segmentAt? found]
        exact .cons rfl ih
      | false =>
        have noEscape : '\\' ∉ tail := ending.notMem (by decide) (by decide)
        rw [QuoteMark.scan_append_of_not_closed closed (char_notMem_of_isEnding ending mark)
          noEscape] at found
        rw [split_of_segmentAt? found, mark.rest_scan_of_not_closed t closed,
          QuoteMark.inside_scan_of_not_closed closed, split_nil]
        exact .quoted mark t
  | code c rest unopened ih =>
    rw [List.cons_append, split_cons (segmentAt?_append_ending ending unopened)]
    exact ih.consCode c

/-! ### Texts and readings -/

theorem textOfAll_codeAlone (t : List Char) : textOfAll (codeAlone t) = t := by
  cases t <;> simp [codeAlone, Segment.text]

theorem Padded.textOfAll_eq (padded : Padded tail segments segments') :
    textOfAll segments' = textOfAll segments ++ tail := by
  induction padded with
  | nil => rw [textOfAll_codeAlone, textOfAll_nil, List.nil_append]
  | lineComment mark inside whole =>
    simp [textOfAll_codeAlone, Segment.text, whole]
  | cons closed padded ih => rw [textOfAll_cons, textOfAll_cons, ih, List.append_assoc]
  | _ => simp [Segment.text, blockEnd]

section Reading

variable {f : Segment → List Char}

theorem IsReading.flatMap_codeAlone (reading : IsReading f) (t : List Char) :
    (codeAlone t).flatMap f = t := by
  have same : f (.code t) = t := reading.keeps (.code t) rfl
  cases t with
  | nil => rfl
  | cons c t => rw [codeAlone_cons, List.flatMap_singleton, same]

/-- Where all comments are closed, what is put behind a text stands behind its readings too, apart
from what goes into a line comment at its end. -/
theorem Padded.flatMap_eq (padded : Padded tail segments segments') (reading : IsReading f)
    (line : ∀ mark inside inside', f (.lineComment mark inside) = f (.lineComment mark inside'))
    (closed : ∀ s ∈ segments, s.isComment = true → s.isTerminated = true) :
    ∃ rest, rest <:+ tail ∧ segments'.flatMap f = segments.flatMap f ++ rest := by
  -- Where the padding goes into a block comment, that comment was open.
  induction padded with
  | nil => exact ⟨tail, List.suffix_rfl, reading.flatMap_codeAlone tail⟩
  | code t =>
    have code (u : List Char) : f (.code u) = u := reading.keeps (.code u) rfl
    exact ⟨tail, List.suffix_rfl, by simp [code]⟩
  | quoted mark inside =>
    have quoted (u : List Char) : f (.quoted mark u false) = mark.char :: u := by
      rw [reading.keeps _ rfl, Segment.text, if_neg Bool.false_ne_true, List.append_nil]
    exact ⟨tail, List.suffix_rfl, by simp [quoted]⟩
  | @lineComment mark inside part rest whole =>
    refine ⟨rest, ⟨part, whole.symm⟩, ?_⟩
    rw [List.flatMap_cons, List.flatMap_singleton, reading.flatMap_codeAlone,
      line mark (inside ++ part) inside]
  | blockComment inside => cases closed _ List.mem_cons_self rfl
  | executableComment mark version body => cases closed _ List.mem_cons_self rfl
  | @cons s later later' terminated padded ih =>
    obtain ⟨rest, suffix, eq⟩ := ih fun r member => closed r (List.mem_cons_of_mem s member)
    exact ⟨rest, suffix, by rw [List.flatMap_cons, List.flatMap_cons, eq, List.append_assoc]⟩

end Reading

/-! ### White space in front of a text -/

/-- White space in front of a text is code. -/
theorem split_blank_append {u : List Char} (blank : isBlank u = true) (text : List Char) :
    split (u ++ text) = u.foldr consCode (split text) := by
  induction u with
  | nil => rfl
  | cons c u ih =>
    have ending : IsEnding (c :: u) := .inl blank
    rw [isBlank, List.all_cons, Bool.and_eq_true] at blank
    rw [List.cons_append, split_cons (segmentAt?_of_isEnding ending _), ih blank.2, List.foldr_cons]

theorem IsReading.flatMap_foldr_consCode {f : Segment → List Char} (reading : IsReading f)
    (u : List Char) (segments : List Segment) :
    (u.foldr consCode segments).flatMap f = u ++ segments.flatMap f := by
  induction u with
  | nil => rfl
  | cons c u ih => rw [List.foldr_cons, reading.flatMap_consCode, ih, List.cons_append]

end QueryGate.Sql
