import QueryGate.Proofs.Pattern.Lexicons

/-!
# Names between backticks

The patterns allow a backtick on either side of a name and do not ask whether there is one on the
other side too; the lexer goes from each backtick to the next one, whatever stands between them. So
a text that the patterns match can have a quoted text that does not end, or one with a comma or a
keyword in it. What follows a name in a query is nothing or a mark. If the lexer finds names between
backticks and nothing else, each name has therefore two backticks or none, and what follows it is
read by the lexer as it would be alone.

## Main definitions

* `WellQuoted` — every segment ends, and what stands between backticks is a name
* `Agrees` — two languages have the same well quoted texts, given what follows them

## Main results

* `wellQuoted_iff_of_mem_query` — the well quoted texts of the patterns are the documented ones
-/

namespace QueryGate.Pattern

open Sql Text Grammar
open scoped Computability

variable {C C' D D' : List Char → Prop} {L M L' M' : Language Segment} {w : List Segment}
  {mark : QuoteMark} {c : Char} {t rest : List Char}

/-- Whether a text is a name: a word that does not begin with a digit. -/
def isName : List Char → Bool
  | [] => false
  | c :: t => startsName c && t.all isWordChar

/-- Whether a segment ends and, if it stands between backticks, has a name in it. -/
def isWellQuoted : Segment → Bool
  | .quoted .backtick inside closed => closed && isName inside
  | s => s.isTerminated

/-- Every segment of a text ends, and what stands between backticks is a name. -/
def WellQuoted (text : List Char) : Prop := ∀ s ∈ split text, isWellQuoted s = true

instance (text : List Char) : Decidable (WellQuoted text) :=
  inferInstanceAs (Decidable (∀ s ∈ split text, _))

/-! ### Well quoted texts -/

theorem wellQuoted_nil : WellQuoted [] := by
  intro s member
  rw [split_nil] at member
  cases member

/-- A character of code in front of a text changes nothing, unless it begins a comment there. -/
theorem wellQuoted_code_iff (allowed : isWordChar c = true ∨ c ∈ codeMarks)
    (noDashes : c = '-' → rest.head? ≠ some '-') : WellQuoted (c :: rest) ↔ WellQuoted rest := by
  obtain ⟨noQuote, noHash, noSlash⟩ := ne_of_mem_codeMarks allowed
  have unopened : segmentAt? (c :: rest) = none := by
    rw [segmentAt?_eq_none_iff]
    exact ⟨noQuote, noHash, fun dashes => noDashes dashes.1 dashes.2,
      fun opening => noSlash opening.1⟩
  rw [WellQuoted, split_cons unopened]
  exact forall_mem_consCode_iff fun _ => rfl

theorem wellQuoted_word_iff (word : isWordChar c = true) :
    WellQuoted (c :: rest) ↔ WellQuoted rest := by
  apply wellQuoted_code_iff (.inl word)
  rintro rfl
  exact absurd word (by decide)

theorem wellQuoted_words_iff (words : ∀ c ∈ t, isWordChar c = true) :
    WellQuoted (t ++ rest) ↔ WellQuoted rest := by
  induction t with
  | nil => rfl
  | cons c t ih =>
    obtain ⟨first, others⟩ := List.forall_mem_cons.mp words
    rw [List.cons_append, wellQuoted_word_iff first, ih others]

/-- A quoted text in front of something else than its quote. -/
theorem wellQuoted_quoted_iff (encloses : mark.Encloses t) (apart : rest.head? ≠ some mark.char) :
    WellQuoted ((Segment.quoted mark t true).text ++ rest) ↔
      isWellQuoted (.quoted mark t true) = true ∧ WellQuoted rest := by
  have found : segmentAt? ((Segment.quoted mark t true).text ++ rest) =
      some (.quoted mark t true, rest) := by
    have scanned := mark.scan_append_mark encloses apart
    have whole : (Segment.quoted mark t true).text ++ rest =
        mark.char :: (t ++ mark.char :: rest) := by
      simp [Segment.text]
    rw [whole, segmentAt?_quote, scanned]
  rw [WellQuoted, split_of_segmentAt? found, List.forall_mem_cons]
  rfl

/-- A backtick in a well quoted text opens a name. -/
theorem exists_name_of_wellQuoted (quoted : WellQuoted ('\x60' :: t)) :
    ∃ name rest, isName name = true ∧ t = name ++ '\x60' :: rest := by
  have found : segmentAt? ('\x60' :: t) = some (_, _) := segmentAt?_quote .backtick t
  rw [WellQuoted, split_of_segmentAt? found, List.forall_mem_cons] at quoted
  obtain ⟨closed, name⟩ := Bool.and_eq_true_iff.mp quoted.1
  have whole := QuoteMark.scan_text .backtick t
  rw [closed, if_pos rfl, List.append_assoc] at whole
  exact ⟨_, _, name, whole.symm⟩

/-! ### Names -/

theorem isWordChar_of_isName (name : isName t = true) : ∀ c ∈ t, isWordChar c = true := by
  cases t with
  | nil => cases name
  | cons c t =>
    obtain ⟨starts, words⟩ := Bool.and_eq_true_iff.mp name
    exact List.forall_mem_cons.mpr ⟨(Bool.and_eq_true_iff.mp starts).1, List.all_eq_true.mp words⟩

theorem mem_plainName_iff : w ∈ plainName ↔ ∃ t, isName t = true ∧ w = codes t := by
  constructor
  · intro member
    obtain ⟨-, ⟨c, starts, rfl⟩, v, inStar, rfl⟩ := Language.mem_mul.mp member
    obtain ⟨t, words, rfl⟩ : ∃ t, t.all isWordChar = true ∧ v = codes t := by
      obtain ⟨parts, rfl, all⟩ := Language.mem_kstar.mp inStar
      clear inStar member
      induction parts with
      | nil => exact ⟨[], rfl, rfl⟩
      | cons part parts ih =>
        obtain ⟨⟨d, word, rfl⟩, others⟩ := List.forall_mem_cons.mp all
        obtain ⟨t, words, eq⟩ := ih others
        refine ⟨d :: t, ?_, ?_⟩
        · rw [List.all_cons, word, words, Bool.and_self]
        · rw [List.flatten_cons, eq]
          rfl
    exact ⟨c :: t, Bool.and_eq_true_iff.mpr ⟨starts, words⟩, rfl⟩
  · rintro ⟨t, name, rfl⟩
    cases t with
    | nil => cases name
    | cons c t =>
      obtain ⟨starts, words⟩ := Bool.and_eq_true_iff.mp name
      exact codes_mem_plainName starts words

theorem isName_iff_mem : isName t = true ↔ t ∈ single startsName * (single isWordChar)∗ := by
  rw [← texts_plainName]
  constructor
  · intro name
    exact ⟨codes t, mem_plainName_iff.mpr ⟨t, name, rfl⟩, textOfAll_codes t⟩
  · rintro ⟨w, member, rfl⟩
    obtain ⟨t, name, rfl⟩ := mem_plainName_iff.mp member
    rwa [textOfAll_codes]

theorem encloses_of_isName (name : isName t = true) : QuoteMark.backtick.Encloses t := by
  have words := isWordChar_of_isName name
  clear name
  induction t with
  | nil => exact .nil
  | cons c t ih =>
    obtain ⟨word, others⟩ := List.forall_mem_cons.mp words
    apply QuoteMark.Encloses.other _ (fun _ => rfl) (ih others)
    rintro rfl
    exact absurd word (by decide)

/-! ### What follows -/

/-- Nothing, or a character that neither goes on with a word nor opens a quoted text. -/
def Bounded (rest : List Char) : Prop :=
  ∀ c, rest.head? = some c → isWordChar c = false ∧ QuoteMark.ofChar? c = none

/-- Nothing, or a character other than a hyphen. -/
def NoDash (rest : List Char) : Prop := rest.head? ≠ some '-'

/-- Anything. -/
def Anything (_ : List Char) : Prop := True

theorem bounded_nil : Bounded [] := by
  intro c first
  cases first

theorem Bounded.head?_ne_char (bounded : Bounded rest) (mark : QuoteMark) :
    rest.head? ≠ some mark.char := by
  intro first
  have noQuote := (bounded _ first).2
  rw [mark.ofChar?_char] at noQuote
  cases noQuote

/-- In front of a mark, or of nothing, a word ends. -/
theorem Bounded.takeWhile_append (bounded : Bounded rest)
    (words : ∀ c ∈ t, isWordChar c = true) : (t ++ rest).takeWhile isWordChar = t := by
  have stops : rest.takeWhile isWordChar = [] := by
    cases rest with
    | nil => rfl
    | cons c rest => rw [List.takeWhile_cons_of_neg (by simp [(bounded c rfl).1])]
  rw [List.takeWhile_append_of_pos words, stops, List.append_nil]

/-- A backtick in front of a name, and none behind it, or the other way round, is not well
quoted. -/
theorem Bounded.not_wellQuoted_backtick (bounded : Bounded rest)
    (words : ∀ c ∈ t, isWordChar c = true) : ¬ WellQuoted ('\x60' :: (t ++ rest)) := by
  intro quoted
  obtain ⟨name, more, isName, eq⟩ := exists_name_of_wellQuoted quoted
  -- Both words reach as far as they can, so they are the same, and the backtick closes behind them.
  have outer := bounded.takeWhile_append words
  rw [eq, List.takeWhile_append_of_pos (isWordChar_of_isName isName),
    List.takeWhile_cons_of_neg (by decide), List.append_nil] at outer
  subst outer
  have closing : rest = '\x60' :: more := List.append_cancel_left eq
  apply bounded.head?_ne_char .backtick
  rw [closing]
  rfl

/-! ### Agreement of two languages -/

/-- Given what follows them, two languages have the same well quoted texts: if a text of the first
is well quoted together with what follows, it is a text of the second, and what follows is well
quoted by itself; and a text of the second is well quoted in front of what is. The condition on what
follows leads to one on the whole. -/
structure Agrees (C : List Char → Prop) (L M : Language Segment) (D : List Char → Prop) :
    Prop where
  fits : ∀ {w rest}, w ∈ L ∨ w ∈ M → C rest → D (Segment.textOfAll w ++ rest)
  narrows : ∀ {w rest}, w ∈ L → C rest → WellQuoted (Segment.textOfAll w ++ rest) →
    Segment.textOfAll w ∈ texts M ∧ WellQuoted rest
  keeps : ∀ {w rest}, w ∈ M → C rest → WellQuoted rest →
    WellQuoted (Segment.textOfAll w ++ rest)

namespace Agrees

theorem one : Agrees C 1 1 C where
  fits empty follows := by
    rw [or_self, Language.mem_one] at empty
    rwa [empty]
  narrows empty _ quoted := by
    rw [(Language.mem_one _).mp empty] at quoted ⊢
    exact ⟨⟨[], rfl, rfl⟩, quoted⟩
  keeps empty _ quoted := by
    rwa [(Language.mem_one _).mp empty]

theorem mul (first : Agrees C' L M D) (second : Agrees C L' M' C') :
    Agrees C (L * L') (M * M') D where
  fits member follows := by
    -- The first part is followed by the second one, and that one by the rest.
    rcases member with member | member <;>
      obtain ⟨u, left, v, right, rfl⟩ := Language.mem_mul.mp member <;>
      rw [textOfAll_append, List.append_assoc]
    · exact first.fits (.inl left) (second.fits (.inl right) follows)
    · exact first.fits (.inr left) (second.fits (.inr right) follows)
  narrows member follows quoted := by
    obtain ⟨u, inL, v, inL', rfl⟩ := Language.mem_mul.mp member
    rw [textOfAll_append, List.append_assoc] at quoted
    obtain ⟨inM, later⟩ := first.narrows inL (second.fits (.inl inL') follows) quoted
    obtain ⟨inM', after⟩ := second.narrows inL' follows later
    rw [textOfAll_append, map_mul]
    exact ⟨Language.append_mem_mul inM inM', after⟩
  keeps member follows quoted := by
    obtain ⟨u, inM, v, inM', rfl⟩ := Language.mem_mul.mp member
    rw [textOfAll_append, List.append_assoc]
    exact first.keeps inM (second.fits (.inr inM') follows) (second.keeps inM' follows quoted)

theorem add (left : Agrees C L M D) (right : Agrees C L' M' D) :
    Agrees C (L + L') (M + M') D where
  fits member follows := by
    rcases member with (inL | inL') | (inM | inM')
    · exact left.fits (.inl inL) follows
    · exact right.fits (.inl inL') follows
    · exact left.fits (.inr inM) follows
    · exact right.fits (.inr inM') follows
  narrows member follows quoted := by
    rw [map_add]
    rcases member with inL | inL'
    · exact (left.narrows inL follows quoted).imp_left .inl
    · exact (right.narrows inL' follows quoted).imp_left .inr
  keeps member follows quoted := by
    rcases member with inM | inM'
    · exact left.keeps inM follows quoted
    · exact right.keeps inM' follows quoted

theorem imp (agrees : Agrees C L M D) (before : ∀ rest, C' rest → C rest)
    (after : ∀ rest, D rest → D' rest) : Agrees C' L M D' where
  fits member follows := after _ (agrees.fits member (before _ follows))
  narrows member follows := agrees.narrows member (before _ follows)
  keeps member follows := agrees.keeps member (before _ follows)

/-- Where anything may follow, what follows may be known. -/
theorem before (agrees : Agrees Anything L M D) : Agrees C L M D :=
  agrees.imp (fun _ _ => trivial) fun _ => id

/-- What is known about the whole may be forgotten. -/
theorem forget (agrees : Agrees C L M D) : Agrees C L M Anything :=
  agrees.imp (fun _ => id) fun _ _ => trivial

/-- A part that may be absent. -/
theorem optional (agrees : Agrees C L M D) (absent : ∀ rest, C rest → D rest) :
    Agrees C (1 + L) (1 + M) D :=
  (one.imp (fun _ => id) absent).add agrees

/-- A condition that a part preserves is preserved by any number of such parts. -/
theorem kstar (step : Agrees C L M C) : Agrees C L∗ M∗ C := by
  -- A row of parts is read from its end, and each part leaves the condition for the one before it.
  have row {parts : List (List Segment)} (all : ∀ part ∈ parts, part ∈ L ∨ part ∈ M)
      {rest : List Char} (follows : C rest) :
      C (Segment.textOfAll parts.flatten ++ rest) := by
    induction parts with
    | nil => exact follows
    | cons part parts ih =>
      obtain ⟨first, others⟩ := List.forall_mem_cons.mp all
      rw [List.flatten_cons, textOfAll_append, List.append_assoc]
      exact step.fits first (ih others)
  constructor
  case fits =>
    intro w rest member follows
    rcases member with member | member
    · obtain ⟨parts, rfl, all⟩ := Language.mem_kstar.mp member
      exact row (fun part inside => .inl (all part inside)) follows
    · obtain ⟨parts, rfl, all⟩ := Language.mem_kstar.mp member
      exact row (fun part inside => .inr (all part inside)) follows
  case narrows =>
    intro w rest member follows quoted
    obtain ⟨parts, rfl, all⟩ := Language.mem_kstar.mp member
    rw [← repetition_zero, texts_repetition, repetition_zero]
    clear member
    induction parts with
    | nil => exact ⟨Language.nil_mem_kstar _, quoted⟩
    | cons part parts ih =>
      obtain ⟨first, others⟩ := List.forall_mem_cons.mp all
      rw [List.flatten_cons, textOfAll_append, List.append_assoc] at quoted
      have behind := row (fun p inside => .inl (others p inside)) follows
      obtain ⟨here, later⟩ := step.narrows first behind quoted
      obtain ⟨there, after⟩ := ih others later
      rw [List.flatten_cons, textOfAll_append]
      exact ⟨append_mem_kstar here there, after⟩
  case keeps =>
    intro w rest member follows quoted
    obtain ⟨parts, rfl, all⟩ := Language.mem_kstar.mp member
    clear member
    induction parts with
    | nil => exact quoted
    | cons part parts ih =>
      obtain ⟨first, others⟩ := List.forall_mem_cons.mp all
      rw [List.flatten_cons, textOfAll_append, List.append_assoc]
      have behind := row (fun p inside => .inr (others p inside)) follows
      exact step.keeps first behind (ih others)

end Agrees

/-! ### Single characters and words -/

/-- The same characters of code on both sides. -/
theorem agrees_codeSingle {test : Char → Bool}
    (step : ∀ c, test c = true → ∀ rest, C rest →
      D (c :: rest) ∧ (WellQuoted (c :: rest) ↔ WellQuoted rest)) :
    Agrees C (codeSingle test) (codeSingle test) D where
  fits member follows := by
    rw [or_self] at member
    obtain ⟨c, holds, rfl⟩ := member
    exact (step c holds _ follows).1
  narrows member follows quoted := by
    refine ⟨⟨_, member, rfl⟩, ?_⟩
    obtain ⟨c, holds, rfl⟩ := member
    exact (step c holds _ follows).2.mp quoted
  keeps member follows quoted := by
    obtain ⟨c, holds, rfl⟩ := member
    exact (step c holds _ follows).2.mpr quoted

theorem agrees_wordChar {test : Char → Bool} (words : ∀ c, test c = true → isWordChar c = true) :
    Agrees C (codeSingle test) (codeSingle test) NoDash := by
  apply agrees_codeSingle
  intro c holds rest _
  refine ⟨?_, wellQuoted_word_iff (words c holds)⟩
  intro first
  obtain rfl := Option.some.inj first
  exact absurd (words _ holds) (by decide)

/-- The marks before which a name or a value can end. -/
def stops : List Char := '(' :: ')' :: freeMarks

theorem agrees_mark (member : c ∈ stops) : Agrees C (letter c) (letter c) Bounded := by
  have table : stops.all (fun c => decide (c ∈ marks ∧ c ∈ codeMarks ∧ c ≠ '-' ∧
      isWordChar c = false ∧ QuoteMark.ofChar? c = none)) = true := by decide
  obtain ⟨mark, known, noDash, bounded⟩ := of_decide_eq_true (List.all_eq_true.mp table c member)
  apply agrees_codeSingle
  intro d same rest _
  obtain rfl := eq_of_sameLetter mark same
  refine ⟨?_, wellQuoted_code_iff (.inr known) fun dash => absurd dash noDash⟩
  intro e first
  obtain rfl := Option.some.inj first
  exact bounded

theorem agrees_sign : Agrees NoDash (letter '-') (letter '-') Anything := by
  apply agrees_codeSingle
  intro d same rest noDash
  obtain rfl := eq_of_sameLetter (by decide) same
  exact ⟨trivial, wellQuoted_code_iff (.inr (by decide)) fun _ => noDash⟩

theorem agrees_letters (phrase : isPhrase t = true) :
    Agrees Anything (letters t) (letters t) Anything := by
  induction t with
  | nil => exact .one
  | cons c t ih =>
    rw [isPhrase, List.all_cons, Bool.and_eq_true, Bool.or_eq_true, List.contains_iff_mem,
      List.contains_iff_mem] at phrase
    obtain ⟨known, others⟩ := phrase
    rw [letters_cons]
    refine Agrees.mul ?_ (ih others)
    rcases known with capital | mark
    · exact (agrees_wordChar fun d same => isWordChar_of_sameLetter capital same).forget
    · exact (agrees_mark (.tail _ (.tail _ mark))).forget

/-- A phrase that begins with a mark. -/
def beginsWithMark (t : List Char) : Bool :=
  isPhrase t && t.head?.any freeMarks.contains

/-- Before letters that begin with a mark a name or a value can end. -/
theorem agrees_letters_bounded (marked : beginsWithMark t = true) :
    Agrees Anything (letters t) (letters t) Bounded := by
  obtain ⟨phrase, mark⟩ := Bool.and_eq_true_iff.mp marked
  cases t with
  | nil => cases mark
  | cons c t =>
    have others : isPhrase t = true := by
      rw [isPhrase, List.all_cons, Bool.and_eq_true] at phrase
      exact phrase.2
    have free : c ∈ freeMarks := List.contains_iff_mem.mp mark
    rw [letters_cons]
    exact (agrees_mark (.tail _ (.tail _ free))).mul (agrees_letters others)

theorem agrees_gap : Agrees Anything gap gap Anything :=
  (agrees_mark (by decide)).forget.optional fun _ => id

theorem agrees_gap_bounded : Agrees Bounded gap gap Bounded :=
  (agrees_mark (by decide)).optional fun _ => id

theorem agrees_digits : Agrees Anything digits digits NoDash := by
  have digit {C : List Char → Prop} :
      Agrees C (codeSingle isDecimalDigit) (codeSingle isDecimalDigit) NoDash :=
    agrees_wordChar fun c => isWordChar_of_isDecimalDigit
  exact digit.mul digit.forget.kstar

theorem agrees_number : Agrees Anything number number Anything := by
  have fraction : Agrees Anything (1 + letter '.' * digits) (1 + letter '.' * digits) Anything :=
    ((agrees_mark (by decide)).mul agrees_digits).forget.optional fun _ => id
  exact (agrees_sign.optional fun _ _ => trivial).mul agrees_digits |>.mul fraction

theorem agrees_operator : Agrees Anything operator operator Bounded := by
  have mark {t : List Char} (marked : beginsWithMark t = true) :
      Agrees Anything (letters t) (letters t) Bounded := agrees_letters_bounded marked
  rw [operator]
  exact mark (by decide) |>.add (mark (by decide)) |>.add (mark (by decide))
    |>.add (mark (by decide)) |>.add (mark (by decide)) |>.add (mark (by decide))
    |>.add (mark (by decide))

theorem agrees_negation : Agrees Anything negation negation Anything :=
  (agrees_letters (by decide)).optional fun _ => id

/-! ### Names and literals -/

theorem agrees_quotedText (escapes : mark.escapes = true) :
    Agrees Bounded (quotedText mark (Lexicon.loose.inside mark))
      (quotedText mark (Lexicon.documented.inside mark)) Anything := by
  have literal (t : List Char) : isWellQuoted (.quoted mark t true) = true := by
    cases mark with
    | backtick => cases escapes
    | single => rfl
    | double => rfl
  have same {t rest : List Char} (encloses : mark.Encloses t) (bounded : Bounded rest) :
      WellQuoted (Segment.textOfAll [.quoted mark t true] ++ rest) ↔ WellQuoted rest := by
    rw [textOfAll_cons, textOfAll_nil, List.append_nil,
      wellQuoted_quoted_iff encloses (bounded.head?_ne_char mark), and_iff_right (literal t)]
  constructor
  case fits => exact fun _ _ => trivial
  case narrows =>
    rintro - rest ⟨t, member, rfl⟩ bounded quoted
    have encloses := encloses_of_mem_language escapes member
    exact ⟨⟨_, ⟨t, encloses, rfl⟩, rfl⟩, (same encloses bounded).mp quoted⟩
  case keeps =>
    rintro - rest ⟨t, encloses, rfl⟩ bounded quoted
    exact (same encloses bounded).mpr quoted

/-- A name with a backtick on one side only is not well quoted, whatever mark follows it. -/
theorem agrees_name : Agrees Bounded Lexicon.loose.name Lexicon.documented.name Anything := by
  have between {t rest : List Char} (name : isName t = true) (bounded : Bounded rest) :
      WellQuoted (Segment.textOfAll [.quoted .backtick t true] ++ rest) ↔ WellQuoted rest := by
    rw [textOfAll_cons, textOfAll_nil, List.append_nil,
      wellQuoted_quoted_iff (encloses_of_isName name) (bounded.head?_ne_char .backtick)]
    exact and_iff_right name
  have backtick {w : List Segment} (member : w ∈ 1 + letter '\x60') :
      Segment.textOfAll w = [] ∨ Segment.textOfAll w = ['\x60'] := by
    rcases member with empty | ⟨c, same, rfl⟩
    · exact .inl (by rw [(Language.mem_one w).mp empty]; rfl)
    · obtain rfl := eq_of_sameLetter (by decide) same
      exact .inr rfl
  constructor
  case fits => exact fun _ _ => trivial
  case narrows =>
    intro w rest member bounded quoted
    obtain ⟨u, inFront, closing, isClosing, rfl⟩ := Language.mem_mul.mp member
    obtain ⟨opening, isOpening, v, plain, rfl⟩ := Language.mem_mul.mp inFront
    obtain ⟨t, name, rfl⟩ := mem_plainName_iff.mp plain
    have words := isWordChar_of_isName name
    simp only [textOfAll_append, textOfAll_codes, List.append_assoc] at quoted ⊢
    rcases backtick isOpening with noFront | front <;> rcases backtick isClosing with noEnd | last
    · -- No backticks: the name is plain.
      rw [noFront, noEnd, List.nil_append, List.nil_append, wellQuoted_words_iff words] at quoted
      rw [noFront, noEnd, List.nil_append, List.append_nil]
      exact ⟨⟨codes t, .inl plain, textOfAll_codes t⟩, quoted⟩
    · -- A backtick behind the name would open a name that what follows does not have.
      rw [noFront, last, List.nil_append, wellQuoted_words_iff words] at quoted
      exact absurd quoted (bounded.not_wellQuoted_backtick (t := []) (by simp))
    · -- A backtick before the name would have to close right behind it.
      rw [front, noEnd, List.nil_append] at quoted
      exact absurd quoted (bounded.not_wellQuoted_backtick words)
    · have whole : Segment.textOfAll [.quoted .backtick t true] = '\x60' :: (t ++ ['\x60']) := by
        simp [Segment.text, QuoteMark.char]
      have same : ['\x60'] ++ (t ++ (['\x60'] ++ rest)) =
          Segment.textOfAll [.quoted .backtick t true] ++ rest := by
        rw [whole]
        simp
      rw [front, last, same, between name bounded] at quoted
      rw [front, last]
      refine ⟨⟨[.quoted .backtick t true], .inr ⟨t, isName_iff_mem.mp name, rfl⟩, ?_⟩, quoted⟩
      rw [whole]
      rfl
  case keeps =>
    intro w rest member bounded quoted
    rcases member with plain | ⟨t, member, rfl⟩
    · obtain ⟨t, name, rfl⟩ := mem_plainName_iff.mp plain
      rwa [textOfAll_codes, wellQuoted_words_iff (isWordChar_of_isName name)]
    · exact (between (isName_iff_mem.mpr member) bounded).mpr quoted

theorem agrees_column : Agrees Bounded (column .loose) (column .documented) Anything :=
  agrees_name.mul (((agrees_mark (by decide)).mul agrees_name).optional fun _ => id)

theorem agrees_literal : Agrees Bounded (literal .loose) (literal .documented) Anything :=
  (agrees_quotedText rfl).add (agrees_quotedText rfl)

theorem agrees_value : Agrees Bounded (value .loose) (value .documented) Anything :=
  agrees_number.before.add agrees_literal |>.add agrees_column

/-! ### The parts of a query -/

theorem agrees_commaList (element : Agrees Bounded L M Anything) :
    Agrees Bounded (commaList L) (commaList M) Anything := by
  have further : Agrees Bounded (gap * letter ',' * gap * L) (gap * letter ',' * gap * M)
      Bounded :=
    agrees_gap_bounded.mul (agrees_mark (by decide)) |>.mul agrees_gap |>.mul element
  exact element.mul further.kstar

theorem agrees_condition : Agrees Bounded (condition .loose) (condition .documented) Anything := by
  have column := agrees_column
  have value := agrees_value
  have word {t : List Char} (phrase : isPhrase t = true) :
      Agrees Anything (letters t) (letters t) Anything := agrees_letters phrase
  have mark {t : List Char} (marked : beginsWithMark t = true) :
      Agrees Anything (letters t) (letters t) Bounded := agrees_letters_bounded marked
  refine Agrees.add (Agrees.add (Agrees.add (Agrees.add ?compared ?liked) ?null) ?listed) ?between
  case compared =>
    exact column.mul agrees_gap_bounded |>.mul agrees_operator |>.mul agrees_gap |>.mul value
  case liked =>
    exact column.mul (mark (by decide)) |>.mul agrees_negation |>.mul (word (by decide))
      |>.mul value
  case null =>
    exact column.mul (mark (by decide)) |>.mul agrees_negation |>.mul (word (by decide)).before
  case listed =>
    exact column.mul (mark (by decide)) |>.mul agrees_negation |>.mul (word (by decide))
      |>.mul agrees_gap |>.mul (agrees_mark (by decide)).forget |>.mul agrees_gap
      |>.mul (agrees_commaList value) |>.mul agrees_gap_bounded |>.mul (agrees_mark (by decide))
  case between =>
    exact column.mul (mark (by decide)) |>.mul agrees_negation |>.mul (word (by decide))
      |>.mul value |>.mul (mark (by decide)) |>.mul value

theorem agrees_whereClause :
    Agrees Bounded (whereClause .loose) (whereClause .documented) Bounded := by
  have join : Agrees Anything (letters "AND".toList + letters "OR".toList)
      (letters "AND".toList + letters "OR".toList) Anything :=
    (agrees_letters (by decide)).add (agrees_letters (by decide))
  have further := (agrees_letters_bounded (by decide : beginsWithMark " ".toList = true)).mul join
    |>.mul (agrees_letters_bounded (by decide : beginsWithMark " ".toList = true)).forget
    |>.mul agrees_condition
  exact ((agrees_letters_bounded (by decide)).mul agrees_condition |>.mul further.kstar).optional
    fun _ => id

theorem agrees_sortKey : Agrees Bounded (sortKey .loose) (sortKey .documented) Anything := by
  have direction := (agrees_letters_bounded (by decide : beginsWithMark " ".toList = true)).mul
    ((agrees_letters (by decide : isPhrase "ASC".toList = true)).add
      (agrees_letters (by decide : isPhrase "DESC".toList = true)))
  exact agrees_column.mul (direction.before.optional fun _ => id)

theorem agrees_orderClause :
    Agrees Bounded (orderClause .loose) (orderClause .documented) Bounded :=
  ((agrees_letters_bounded (by decide)).mul (agrees_commaList agrees_sortKey)).optional fun _ => id

theorem agrees_limitClause : Agrees Bounded limitClause limitClause Bounded := by
  have separator : Agrees Anything (gap * letter ',' * gap + letters " OFFSET ".toList)
      (gap * letter ',' * gap + letters " OFFSET ".toList) Anything :=
    (agrees_gap.mul (agrees_mark (by decide)).forget |>.mul agrees_gap).add
      (agrees_letters (by decide))
  have count := agrees_digits.forget
  have further := (separator.mul count).optional fun _ => id
  exact ((agrees_letters_bounded (by decide)).mul count |>.mul further).before.optional fun _ => id

theorem agrees_newName : Agrees Bounded (newName .loose) (newName .documented) Bounded :=
  ((agrees_letters_bounded (by decide)).mul agrees_name).optional fun _ => id

theorem agrees_columnsQuery :
    Agrees Bounded (columnsQuery .loose) (columnsQuery .documented) Anything := by
  have distinct := (agrees_letters (by decide : isPhrase "DISTINCT ".toList = true)).optional
    fun _ => id
  have columns := (agrees_mark (by decide : '*' ∈ stops)).forget.add
    (agrees_commaList (agrees_column.mul agrees_newName))
  exact (agrees_letters (by decide)).mul distinct |>.mul columns
    |>.mul (agrees_letters_bounded (by decide)) |>.mul agrees_name |>.mul agrees_whereClause
    |>.mul agrees_orderClause |>.mul agrees_limitClause

theorem agrees_countQuery :
    Agrees Bounded (countQuery .loose) (countQuery .documented) Anything := by
  have counted := (agrees_mark (by decide : '*' ∈ stops)).forget.add agrees_column
  exact (agrees_letters (by decide)).mul (agrees_letters (by decide)) |>.mul agrees_gap
    |>.mul (agrees_mark (by decide)).forget |>.mul agrees_gap |>.mul counted
    |>.mul agrees_gap_bounded |>.mul (agrees_mark (by decide)) |>.mul agrees_newName
    |>.mul (agrees_letters_bounded (by decide)) |>.mul agrees_name |>.mul agrees_whereClause

/-- Of the texts that the patterns match, the documented ones are those that are well quoted. -/
theorem wellQuoted_iff_of_mem_query (member : t ∈ texts (query .loose)) :
    WellQuoted t ↔ t ∈ texts (query .documented) := by
  have agrees : Agrees Bounded (query .loose) (query .documented) Anything :=
    agrees_columnsQuery.add agrees_countQuery
  constructor
  · intro quoted
    obtain ⟨w, inLoose, rfl⟩ := member
    rw [← List.append_nil (Segment.textOfAll w)] at quoted
    exact (agrees.narrows inLoose bounded_nil quoted).1
  · rintro ⟨w, inDocumented, rfl⟩
    rw [← List.append_nil (Segment.textOfAll w)]
    exact agrees.keeps inDocumented bounded_nil wellQuoted_nil

end QueryGate.Pattern
