import QueryGate.Proofs.Sql.Lexing
import QueryGate.Proofs.Text.Spacing

/-!
# Reading a text character by character

The lexer looks ahead for the end of each segment, so a change to a text can change every segment
behind it. Read from left to right, all that matters at a place is whether it lies in quotes and
which word ends there. In this way one can say of a text that a condition holds wherever it lies
outside of quotes, and follow what becomes of that when the layout of the text is changed: white
space leads to the same place however much of it there is.

## Main definitions

* `Mode` — whether a place lies in quotes
* `Outside` — a condition holds wherever a text, read from a mode on, lies outside of quotes
* `IgnoresLayout` — a condition that takes no notice of the layout

## Main results

* `outside_quoted_segment_iff` — such a condition at a quoted text, as the lexer finds it
* `forall_not_comment_iff` — a text has no comment if none begins outside of quotes
* `outside_normalize_iff` — such a condition holds of the normal form if it holds of the text
* `not_comment_normalize` — the normal form of a text without comments has none
-/

namespace QueryGate.Gate

open Sql Text

variable {p : List Char → Char → List Char → Prop} {mode : Mode} {mark : QuoteMark}
  {text rest word a b : List Char} {c : Char}

/-! ### Modes -/

/-- Whether a place lies outside of quotes, in quotes, or right after a backslash that protects the
next character. -/
inductive Mode where
  | code
  | quoted (mark : QuoteMark)
  | escaped (mark : QuoteMark)

/-- The mode one character further on. A quote always closes what it can close: where it is doubled,
the second one opens the same quotes again. -/
def Mode.next : Mode → Char → Mode
  | code, c => (QuoteMark.ofChar? c).elim code quoted
  | quoted mark, c =>
    if c = mark.char then code else if c = '\\' ∧ mark.escapes then escaped mark else quoted mark
  | escaped mark, _ => quoted mark

/-- A condition on the word that ends before a character, on the character and on the text behind it
holds wherever the text lies outside of quotes. The mode and the word that ends there are those at
the beginning of the text. -/
def Outside (p : List Char → Char → List Char → Prop) : Mode → List Char → List Char → Prop
  | _, _, [] => True
  | mode, word, c :: rest =>
    (mode = .code → p word c rest) ∧ Outside p (mode.next c) (nextWord word c) rest

theorem nextWord_quote (word : List Char) (mark : QuoteMark) : nextWord word mark.char = [] := by
  simp [nextWord, mark.isWordChar_char]

theorem next_code_quote (mark : QuoteMark) : Mode.code.next mark.char = .quoted mark := by
  simp [Mode.next, mark.ofChar?_char]

/-! ### Quotes -/

/-- A quote that opens a quoted text. -/
theorem outside_code_quote :
    Outside p .code word (mark.char :: rest) ↔
      p word mark.char rest ∧ Outside p (.quoted mark) [] rest := by
  simp [Outside, next_code_quote, nextWord_quote]

/-- A quote that closes a quoted text. -/
theorem outside_quoted_quote :
    Outside p (.quoted mark) word (mark.char :: rest) ↔ Outside p .code [] rest := by
  simp [Outside, Mode.next, nextWord_quote]

/-- A doubled quote leaves a quoted text and enters it again. -/
theorem outside_quoted_doubled (free : ∀ (mark : QuoteMark) rest, p [] mark.char rest) :
    Outside p (.quoted mark) word (mark.char :: mark.char :: rest) ↔
      Outside p (.quoted mark) [] rest := by
  rw [outside_quoted_quote, outside_code_quote]
  exact and_iff_right (free mark rest)

theorem outside_quoted_escaped (escapes : mark.escapes = true) :
    Outside p (.quoted mark) word ('\\' :: c :: rest) ↔
      Outside p (.quoted mark) (nextWord (nextWord word '\\') c) rest := by
  have other : '\\' ≠ mark.char := by cases mark <;> decide
  simp [Outside, Mode.next, other, escapes]

theorem outside_quoted_other (other : c ≠ mark.char)
    (unescaped : ¬ (c = '\\' ∧ mark.escapes = true)) :
    Outside p (.quoted mark) word (c :: rest) ↔
      Outside p (.quoted mark) (nextWord word c) rest := by
  simp [Outside, Mode.next, other, unescaped]

/-- A quoted text, as it is scanned, is followed up to its closing quote. -/
theorem outside_scan (free : ∀ (mark : QuoteMark) rest, p [] mark.char rest) (mark : QuoteMark)
    (text : List Char) :
    ((mark.scan text).closed = true → ∀ word rest,
      (Outside p (.quoted mark) word ((mark.scan text).inside ++ mark.char :: rest) ↔
        Outside p .code [] rest)) ∧
    ((mark.scan text).closed = false → ∀ word,
      Outside p (.quoted mark) word (mark.scan text).inside) := by
  -- Along the scan, which ends where the mode is that of code again.
  fun_induction QuoteMark.scan mark text with
  | case1 => simp [Outside]
  | case2 c closing => simp [outside_quoted_quote]
  | case3 c other => simp [Outside]
  | case4 c d text escape ih =>
    obtain ⟨rfl, escapes⟩ : c = '\\' ∧ mark.escapes = true := by simpa using escape
    simpa [outside_quoted_escaped escapes] using
      ⟨fun closed _ => ih.1 closed _, fun closed _ => ih.2 closed _⟩
  | case5 c d text escape closing doubled ih =>
    obtain rfl : c = mark.char := by simpa using closing
    obtain rfl : d = mark.char := by simpa using doubled
    simpa [outside_quoted_doubled free] using
      ⟨fun closed => ih.1 closed [], fun closed => ih.2 closed []⟩
  | case6 c d text escape closing single => simp [outside_quoted_quote]
  | case7 c d text escape other ih =>
    have other : c ≠ mark.char := by simpa using other
    have unescaped : ¬ (c = '\\' ∧ mark.escapes = true) := by simpa using escape
    simpa [outside_quoted_other other unescaped] using
      ⟨fun closed _ => ih.1 closed _, fun closed _ => ih.2 closed _⟩

/-- A quoted text, as the lexer finds it, and what follows it. An open one has nothing after it. -/
theorem outside_quoted_segment_iff (free : ∀ (mark : QuoteMark) rest, p [] mark.char rest)
    {t more : List Char} (last : (mark.scan t).closed = false → more = []) :
    Outside p .code word
        ((Segment.quoted mark (mark.scan t).inside (mark.scan t).closed).text ++ more) ↔
      p word mark.char ((mark.scan t).inside ++
        ((if (mark.scan t).closed then [mark.char] else []) ++ more)) ∧
        Outside p .code [] more := by
  rw [Segment.text, List.cons_append, List.cons_append, outside_code_quote, List.append_assoc]
  refine and_congr_right fun _ => ?_
  obtain ⟨upToQuote, upToEnd⟩ := outside_scan free mark t
  cases ends : (mark.scan t).closed with
  | true => simpa using upToQuote ends [] more
  | false => simpa [last ends, Outside] using upToEnd ends []

/-! ### Comments -/

/-- Whether a comment begins with a character, given the text after it. -/
def OpensComment (c : Char) (rest : List Char) : Prop :=
  c = '#' ∨ (c = '-' ∧ rest.head? = some '-') ∨ (c = '/' ∧ rest.head? = some '*')

theorem segmentAt?_eq_none_iff_not_opensComment :
    segmentAt? (c :: rest) = none ↔ QuoteMark.ofChar? c = none ∧ ¬ OpensComment c rest := by
  rw [segmentAt?_eq_none_iff, OpensComment]
  tauto

theorem not_opensComment_quote (mark : QuoteMark) (rest : List Char) :
    ¬ OpensComment mark.char rest := by
  cases mark <;> simp [OpensComment, QuoteMark.char]

theorem OpensComment.append (opens : OpensComment c a) (b : List Char) :
    OpensComment c (a ++ b) := by
  rcases opens with hash | ⟨dash, second⟩ | ⟨slash, second⟩
  · exact .inl hash
  · exact .inr (.inl ⟨dash, by simp [second]⟩)
  · exact .inr (.inr ⟨slash, by simp [second]⟩)

/-- A mark of a comment that the lexer reads is one outside of quotes. -/
theorem opensComment_of_lineMark (mark : LineMark) (t : List Char) :
    ∃ c rest, mark.text ++ t = c :: rest ∧ OpensComment c rest := by
  cases mark with
  | hash => exact ⟨'#', t, rfl, .inl rfl⟩
  | dashes => exact ⟨'-', '-' :: t, rfl, .inr (.inl ⟨rfl, rfl⟩)⟩

/-- The lexer finds no comment in a text if none begins outside of quotes. -/
theorem forall_not_comment_iff (word text : List Char) :
    (∀ s ∈ split text, s.isComment = false) ↔
      Outside (fun _ c rest => ¬ OpensComment c rest) .code word text := by
  induction text using split_induction generalizing word with
  | nil => simp [Outside]
  | segment text s rest found ih =>
    rw [List.forall_mem_cons]
    obtain ⟨mark, t, rfl, same⟩ | ⟨t, rfl, rfl, rfl⟩ | ⟨mark, t, rfl, rfl, rfl⟩ :=
      segmentAt?_cases found
    · obtain ⟨rfl, rfl⟩ := Prod.mk.inj same
      obtain ⟨c, rest, eq, opens⟩ := opensComment_of_lineMark mark t
      rw [eq]
      exact ⟨fun none => absurd none.1 (by simp [Segment.isComment]),
        fun outside => absurd opens (outside.1 rfl)⟩
    · rw [isComment_commentOf]
      exact ⟨fun none => absurd none.1 (by simp),
        fun outside => absurd (.inr (.inr ⟨rfl, rfl⟩)) (outside.1 rfl)⟩
    · -- The text is the quoted segment and the rest, and neither has a comment at its beginning.
      have whole := text_append_of_segmentAt? found
      rw [← whole, outside_quoted_segment_iff (fun mark rest => not_opensComment_quote mark rest)
        (mark.rest_scan_of_not_closed t), ← ih]
      exact ⟨fun none => ⟨not_opensComment_quote mark _, none.2⟩, fun outside => ⟨rfl, outside.2⟩⟩
  | code c rest unopened ih =>
    obtain ⟨quote, opens⟩ := segmentAt?_eq_none_iff_not_opensComment.mp unopened
    have mode : Mode.code.next c = .code := by rw [Mode.next, quote]; rfl
    rw [forall_mem_consCode_iff fun _ => rfl, Outside, mode, ← ih]
    exact ⟨fun none => ⟨fun _ => opens, none⟩, fun outside => outside.2⟩

/-! ### Layout -/

theorem nextWord_of_isSpace (space : isSpace c = true) : nextWord word c = [] := by
  simp [nextWord, isWordChar_of_isSpace space]

theorem ofChar?_of_isSpace (space : isSpace c = true) : QuoteMark.ofChar? c = none := by
  by_contra quote
  obtain ⟨mark, isMark⟩ := Option.ne_none_iff_exists'.mp quote
  rw [QuoteMark.ofChar?_eq_some_iff.mp isMark] at space
  cases mark <;> simp [QuoteMark.char, isSpace] at space

/-- All white space leads to the same mode. -/
theorem next_of_isSpace (space : isSpace c = true) : mode.next c = mode.next ' ' := by
  have noQuoteMark := ofChar?_of_isSpace space
  cases mode with
  | code => rw [Mode.next, Mode.next, noQuoteMark]; rfl
  | quoted mark =>
    have noQuote : c ≠ mark.char := by
      rintro rfl
      rw [QuoteMark.ofChar?_char] at noQuoteMark
      cases noQuoteMark
    have noEscape : c ≠ '\\' := by
      rintro rfl
      exact absurd space (by decide)
    cases mark <;> simp [Mode.next, QuoteMark.char, noEscape] at noQuote ⊢ <;> exact noQuote
  | escaped mark => rfl

theorem next_space_next_space : (mode.next ' ').next ' ' = mode.next ' ' := by
  cases mode with
  | code => rfl
  | quoted mark => cases mark <;> rfl
  | escaped mark => cases mark <;> rfl

/-- Two texts that begin with the same character, or with white space or not at all. -/
def SameStart (a b : List Char) : Prop :=
  ∀ c, isSpace c = false → (a.head? = some c ↔ b.head? = some c)

theorem sameStart_collapse (a : List Char) : SameStart (collapse a) a := by
  intro c visible
  cases a with
  | nil => rfl
  | cons d a =>
    by_cases space : isSpace d = true
    · -- Both begin with white space, so neither begins with the character.
      have starts := startsWithSpace_collapse (d :: a)
      constructor
      · intro first
        obtain ⟨more, eq⟩ := List.head?_eq_some_iff.mp first
        rw [eq, startsWithSpace_cons, startsWithSpace_cons, visible, space] at starts
        cases starts
      · intro first
        obtain rfl : d = c := by simpa using first
        rw [visible] at space
        cases space
    · rw [collapse_cons_of_not_space (by simpa using space)]
      rfl

theorem sameStart_trimEnd (a : List Char) : SameStart (trimEnd a) a := by
  intro c visible
  cases a with
  | nil => rfl
  | cons d a =>
    rw [trimEnd_cons]
    split
    · next blank =>
      rw [Bool.and_eq_true] at blank
      constructor
      · intro first
        cases first
      · intro first
        obtain rfl : d = c := by simpa using first
        rw [visible] at blank
        cases blank.1
    · rfl

/-- A condition that takes no notice of the layout: it holds of all white space, and of the text
behind a character it asks at most which visible character comes next. -/
structure IgnoresLayout (p : List Char → Char → List Char → Prop) : Prop where
  spaces : ∀ {word c rest}, isSpace c = true → p word c rest
  behind : ∀ {word c a b}, SameStart a b → (p word c a ↔ p word c b)

theorem not_opensComment_of_isSpace (space : isSpace c = true) : ¬ OpensComment c rest := by
  rintro (rfl | ⟨rfl, -⟩ | ⟨rfl, -⟩) <;> exact absurd space (by decide)

theorem opensComment_congr (same : SameStart a b) : OpensComment c a ↔ OpensComment c b := by
  rw [OpensComment, OpensComment, same '-' (by decide), same '*' (by decide)]

theorem ignoresLayout_not_opensComment :
    IgnoresLayout fun _ c rest => ¬ OpensComment c rest where
  spaces space := not_opensComment_of_isSpace space
  behind same := not_congr (opensComment_congr same)

section IgnoresLayout

variable (ignores : IgnoresLayout p)

include ignores

theorem outside_of_isSpace (space : isSpace c = true) :
    Outside p mode word (c :: rest) ↔ Outside p (mode.next ' ') [] rest := by
  rw [Outside, next_of_isSpace space, nextWord_of_isSpace space]
  exact and_iff_right fun _ => ignores.spaces space

theorem outside_collapse_iff : Outside p mode word (collapse a) ↔ Outside p mode word a := by
  induction a generalizing mode word with
  | nil => rfl
  | cons c a ih =>
    by_cases space : isSpace c = true
    · rw [collapse_cons_of_space space, outside_of_isSpace ignores space, ← ih]
      split
      · next more =>
        -- The rest begins with the space that stands for this one too.
        obtain ⟨y, eq⟩ : ∃ y, collapse a = ' ' :: y := by
          have starts := (startsWithSpace_collapse a).trans more
          have spaces := (singleSpaced_collapse a).eq_space
          cases eq : collapse a <;> simp_all
        rw [eq, outside_of_isSpace ignores isSpace_space, outside_of_isSpace ignores isSpace_space,
          next_space_next_space]
      · exact outside_of_isSpace ignores isSpace_space
    · rw [collapse_cons_of_not_space (by simpa using space), Outside, Outside, ih]
      exact and_congr_left' (forall_congr' fun _ => ignores.behind (sameStart_collapse a))

theorem outside_dropWhile_isSpace_iff :
    Outside p .code [] (a.dropWhile isSpace) ↔ Outside p .code [] a := by
  induction a with
  | nil => rfl
  | cons c a ih =>
    by_cases space : isSpace c = true
    · have skipped : Outside p .code [] (c :: a) ↔ Outside p (Mode.code.next ' ') [] a :=
        outside_of_isSpace ignores space
      rw [List.dropWhile_cons_of_pos space, ih, skipped]
      rfl
    · rw [List.dropWhile_cons_of_neg space]

theorem outside_trimEnd_iff : Outside p mode word (trimEnd a) ↔ Outside p mode word a := by
  induction a generalizing mode word with
  | nil => rfl
  | cons c a ih =>
    rw [trimEnd_cons]
    split
    · next blank =>
      rw [Bool.and_eq_true, List.isEmpty_iff] at blank
      have more : Outside p (mode.next ' ') [] a := by
        rw [← ih, blank.2]
        trivial
      exact ⟨fun _ => (outside_of_isSpace ignores blank.1).mpr more, fun _ => trivial⟩
    · rw [Outside, Outside, ih]
      exact and_congr_left' (forall_congr' fun _ => ignores.behind (sameStart_trimEnd a))

/-- What holds outside of quotes, whatever the layout, holds of a text and its normal form alike. -/
theorem outside_normalize_iff : Outside p .code [] (normalize a) ↔ Outside p .code [] a := by
  rw [Text.normalize, trim, outside_trimEnd_iff ignores, outside_dropWhile_isSpace_iff ignores,
    outside_collapse_iff ignores]

end IgnoresLayout

/-- The normal form of a text without comments has no comments. -/
theorem not_comment_normalize (comments : ∀ s ∈ split text, s.isComment = false) :
    ∀ s ∈ split (normalize text), s.isComment = false := by
  rw [forall_not_comment_iff [], outside_normalize_iff ignoresLayout_not_opensComment]
  exact (forall_not_comment_iff [] text).mp comments

end QueryGate.Gate
