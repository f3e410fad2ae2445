import Mathlib.Data.List.TakeWhile
import QueryGate.Proofs.Sql.Delimiters

/-!
# The only decomposition of a text

What a segment is can be said without a scan: how it begins, what its inside may hold, and what may
follow it. A list of pieces that follow these rules and make up a text is the list of its segments,
so the rules leave no choice, and the lexer follows all of them.

## Main definitions

* `Piece` — a stretch of text with a sort, a body and a mark for its end, in any combination
* `Piece.Fits` — a piece follows the rules for its sort before a given text
* `Decomposition` — pieces that follow the rules and make up a text

## Main results

* `Segment.fits_of_segmentAt?`, `Piece.Fits.segmentAt?` — the rules describe what the lexer reads
* `decomposition_iff` — the segments of a text are its only decomposition
-/

namespace QueryGate.Sql

open Segment Text

variable {text inside rest : List Char} {c : Char} {p : Piece} {pieces later : List Piece}
  {s : Segment} {segments : List Segment}

/-! ### Pieces -/

/-- The sorts of segments. -/
inductive SegmentKind where
  | code
  | quoted
  | lineComment
  | blockComment
  | executableComment
  deriving Repr, DecidableEq

/-- A stretch of text with what is said about it: its sort, what a server may run of it, and whether
the delimiter that should end it is there. Nothing ties these to each other. -/
structure Piece where
  kind : SegmentKind
  text : List Char
  body : List Char
  terminated : Bool
  deriving Repr, DecidableEq

/-- The sort of a segment. -/
def Segment.kind : Segment → SegmentKind
  | .code _ => .code
  | .quoted .. => .quoted
  | .lineComment .. => .lineComment
  | .blockComment .. => .blockComment
  | .executableComment .. => .executableComment

/-- A segment as a piece. -/
def Segment.piece (s : Segment) : Piece :=
  ⟨s.kind, s.text, s.body, s.isTerminated⟩

theorem Segment.kind_eq_code_iff (s : Segment) : s.kind = .code ↔ ∃ t, s = .code t := by
  cases s <;> simp [Segment.kind]

theorem flatMap_text_map_piece (segments : List Segment) :
    (segments.map Segment.piece).flatMap Piece.text = textOfAll segments := by
  rw [List.flatMap_map]
  rfl

/-- A quote or a comment begins a text. -/
def Opens (text : List Char) : Prop :=
  (∃ mark : QuoteMark, [mark.char] <+: text) ∨ ['#'] <+: text ∨ ['-', '-'] <+: text ∨
    ['/', '*'] <+: text

/-- The rules for a piece that stands before a text. Code holds no place where something else opens;
everything else reaches from its opening to the first place that can end it, or to the end of the
whole text if there is none. -/
inductive Piece.Fits : Piece → List Char → Prop
  | code {t rest : List Char} (unopened : ∀ a b, t = a ++ b → b ≠ [] → ¬ Opens (b ++ rest)) :
      Fits ⟨.code, t, [], true⟩ rest
  | closedQuote {mark : QuoteMark} {inside rest : List Char} (encloses : mark.Encloses inside)
      (single : rest.head? ≠ some mark.char) :
      Fits ⟨.quoted, mark.char :: inside ++ [mark.char], [], true⟩ rest
  | openQuote {mark : QuoteMark} {inside : List Char} (leavesOpen : mark.LeavesOpen inside) :
      Fits ⟨.quoted, mark.char :: inside, [], false⟩ []
  | lineComment {mark : LineMark} {inside rest : List Char}
      (oneLine : '\n' ∉ mark.text ++ inside) (ends : rest = [] ∨ rest.head? = some '\n') :
      Fits ⟨.lineComment, mark.text ++ inside, [], true⟩ rest
  | blockComment {inside rest : List Char} {closed : Bool} (noEnd : ¬ ['*', '/'] <:+: inside)
      (ends : closed = false → rest = [])
      (noMark : ∀ mark : ExecutableMark,
        ¬ '/' :: '*' :: mark.text <+: '/' :: '*' :: inside ++ blockEnd closed) :
      Fits ⟨.blockComment, '/' :: '*' :: inside ++ blockEnd closed, [], closed⟩ rest
  | executableComment {mark : ExecutableMark} {version body rest : List Char} {closed : Bool}
      (noEnd : ¬ ['*', '/'] <:+: mark.text ++ (version ++ body))
      (ends : closed = false → rest = []) (digits : version.all isDecimalDigit = true)
      (noDigit : body.head?.any isDecimalDigit = false) :
      Fits ⟨.executableComment, '/' :: '*' :: (mark.text ++ (version ++ body)) ++ blockEnd closed,
        body, closed⟩ rest

/-- A line comment goes on to the end of its line. -/
theorem Piece.Fits.lineComment_ends {p : Piece} {rest : List Char} (fits : p.Fits rest)
    (line : p.kind = .lineComment) : rest = [] ∨ rest.head? = some '\n' := by
  cases fits with
  | lineComment oneLine ends => exact ends
  | _ => cases line

/-- What lacks its closing delimiter goes on to the end of the text. -/
theorem Piece.Fits.eq_nil_of_not_terminated {p : Piece} {rest : List Char} (fits : p.Fits rest)
    (unclosed : p.terminated = false) : rest = [] := by
  cases fits with
  | openQuote leavesOpen => rfl
  | blockComment noEnd ends noMark => exact ends unclosed
  | executableComment noEnd ends digits noDigit => exact ends unclosed
  | _ => cases unclosed

/-- Something other than code ends inside a word only at the end of a line or of the text. -/
theorem Piece.Fits.ends_of_endsInWord {p : Piece} {rest : List Char} (fits : p.Fits rest)
    (other : p.kind ≠ .code) (inside : endsInWord p.text = true) :
    rest = [] ∨ rest.head? = some '\n' := by
  have closing (a b : List Char) (nonempty : b ≠ []) (outside : endsInWord b = false) :
      endsInWord (a ++ b) ≠ true := by
    rw [endsInWord_append nonempty, outside]
    exact Bool.false_ne_true
  have blockEnded (a : List Char) (closed : Bool) (ends : closed = false → rest = [])
      (inside : endsInWord (a ++ Segment.blockEnd closed) = true) : rest = [] := by
    cases closed with
    | true => exact absurd inside (closing a _ (List.cons_ne_nil _ _) rfl)
    | false => exact ends rfl
  -- Only line comments and pieces without their end can end like a word.
  cases fits with
  | code unopened => exact absurd rfl other
  | @closedQuote mark t rest encloses single =>
    refine absurd inside (closing _ _ (List.cons_ne_nil _ _) ?_)
    simp [endsInWord, mark.isWordChar_char]
  | openQuote leavesOpen => exact .inl rfl
  | lineComment oneLine ends => exact ends
  | blockComment noEnd ends noMark => exact .inl (blockEnded _ _ ends inside)
  | executableComment noEnd ends digits noDigit => exact .inl (blockEnded _ _ ends inside)

/-- Pieces that follow the rules for their sorts and make up a text. None is empty, and no two
pieces of code stand side by side. -/
structure Decomposition (text : List Char) (pieces : List Piece) : Prop where
  whole : pieces.flatMap Piece.text = text
  nonempty : ∀ p ∈ pieces, p.text ≠ []
  apart : pieces.IsChain fun p q => ¬ (p.kind = .code ∧ q.kind = .code)
  fits : ∀ front p later, pieces = front ++ p :: later → p.Fits (later.flatMap Piece.text)

/-! ### Code -/

/-- Where neither a quote nor a comment begins, the lexer reads a character of code. -/
theorem not_opens_cons_iff : ¬ Opens (c :: text) ↔ segmentAt? (c :: text) = none := by
  have quote : QuoteMark.ofChar? c = none ↔ ∀ mark : QuoteMark, mark.char ≠ c := by
    rw [Option.eq_none_iff_forall_ne_some]
    exact forall_congr' fun mark => not_congr (QuoteMark.ofChar?_eq_some_iff.trans eq_comm)
  have second {d e : Char} : [d, e] <+: c :: text ↔ c = d ∧ text.head? = some e := by
    rw [List.cons_prefix_cons, List.singleton_prefix_iff_head?_eq_some, eq_comm (a := d)]
  simp only [Opens, List.singleton_prefix_iff_head?_eq_some, List.head?_cons, Option.some.injEq,
    second, segmentAt?_eq_none_iff, quote, not_or, not_exists, ne_eq, eq_comm (a := c)]

/-- No segment begins within a text if none of its ends, with what follows, opens one. -/
theorem noOpening_iff :
    NoOpening text rest ↔ ∀ a b, text = a ++ b → b ≠ [] → ¬ Opens (b ++ rest) := by
  induction text with
  | nil =>
    refine iff_of_true trivial fun a b eq nonempty => ?_
    exact absurd (List.append_eq_nil_iff.mp eq.symm).2 nonempty
  | cons c t ih =>
    rw [NoOpening, ih, ← not_opens_cons_iff]
    constructor
    · rintro ⟨here, behind⟩ a b eq nonempty
      cases a with
      | nil =>
        rw [List.nil_append] at eq
        exact eq ▸ here
      | cons d a => exact behind a b (List.cons.inj eq).2 nonempty
    · intro unopened
      exact ⟨unopened [] (c :: t) rfl (List.cons_ne_nil c t),
        fun a b eq => unopened (c :: a) b (by rw [eq, List.cons_append])⟩

/-- Characters of code in front of something else become one piece. -/
theorem foldr_consCode (nonempty : text ≠ []) (other : ∀ t later, segments ≠ .code t :: later) :
    text.foldr consCode segments = .code text :: segments := by
  induction text with
  | nil => exact absurd rfl nonempty
  | cons c text ih =>
    rw [List.foldr_cons]
    by_cases last : text = []
    · subst last
      rw [List.foldr_nil, consCode]
      exact other
    · rw [ih last, consCode]

/-! ### Quoted texts and comments -/

/-- What begins two texts in a row, and has nothing in common with the second, begins the first. -/
theorem isPrefix_of_isPrefix_append {front tail : List Char} (apart : ∀ c ∈ front, c ∉ tail)
    (found : front <+: text ++ tail) : front <+: text := by
  have whole : text <+: text ++ tail := List.prefix_append text tail
  rcases List.prefix_or_prefix_of_prefix found whole with inside | ⟨more, eq⟩
  · exact inside
  · cases more with
    | nil => rw [← eq, List.append_nil]
    | cons c more =>
      rw [← eq, List.prefix_append_right_inj] at found
      exact absurd (found.subset List.mem_cons_self) (apart c (by simp [← eq]))

/-- A mark that begins a comment stands inside of it, for the end of a comment has none of its
characters. -/
theorem ExecutableMark.isPrefix_inside {mark : ExecutableMark} {closed : Bool}
    (found : '/' :: '*' :: mark.text <+: '/' :: '*' :: inside ++ blockEnd closed) :
    mark.text <+: inside := by
  have apart : ∀ d ∈ mark.text, d ∉ blockEnd closed := by
    cases mark <;> cases closed <;> simp [ExecutableMark.text, blockEnd]
  have found : mark.text <+: inside ++ blockEnd closed :=
    (List.cons_prefix_cons.mp (List.cons_prefix_cons.mp found).2).2
  exact isPrefix_of_isPrefix_append apart found

/-- What the lexer takes for a comment follows the rules for one of the two sorts. -/
theorem fits_piece_commentOf {closed : Bool} (noEnd : ¬ ['*', '/'] <:+: inside)
    (ends : closed = false → rest = []) : (commentOf inside closed).piece.Fits rest := by
  -- The version is every digit behind the mark, so none is left at the beginning of the body.
  have executable (mark : ExecutableMark) (run : List Char) (eq : inside = mark.text ++ run) :
      (commentOf.executable closed mark run).piece.Fits rest := by
    have halves := List.takeWhile_append_dropWhile (p := isDecimalDigit) (l := run)
    have first := List.head?_dropWhile_not isDecimalDigit run
    have digits : (run.takeWhile isDecimalDigit).all isDecimalDigit = true :=
      List.all_eq_true.mpr fun c member => List.mem_takeWhile_imp member
    have noDigit : (run.dropWhile isDecimalDigit).head?.any isDecimalDigit = false := by
      cases h : run.dropWhile isDecimalDigit <;> simp_all
    have noEndInside : ¬ ['*', '/'] <:+: mark.text ++
        (run.takeWhile isDecimalDigit ++ run.dropWhile isDecimalDigit) := by rwa [halves, ← eq]
    simpa [Segment.piece, commentOf.executable, Segment.kind, Segment.text, Segment.body,
      isTerminated] using Piece.Fits.executableComment noEndInside ends digits noDigit
  unfold commentOf
  split
  · exact executable .anyServer _ rfl
  · exact executable .mariaDb _ rfl
  · next noBang noLetter =>
    refine .blockComment noEnd ends fun mark found => ?_
    obtain ⟨run, rfl⟩ := ExecutableMark.isPrefix_inside found
    cases mark with
    | anyServer => exact noBang run rfl
    | mariaDb => exact noLetter run rfl

/-- What the lexer reads follows the rules. -/
theorem Segment.fits_of_segmentAt? (found : segmentAt? text = some (s, rest)) :
    s.piece.Fits rest := by
  obtain ⟨mark, t, rfl, same⟩ | ⟨t, rfl, rfl, rfl⟩ | ⟨mark, t, rfl, rfl, rfl⟩ :=
    segmentAt?_cases found
  · obtain ⟨rfl, rfl⟩ := Prod.mk.inj same
    refine .lineComment (fun newline => ?_) ?_
    · obtain inMark | inside := List.mem_append.mp newline
      · cases mark <;> simp [LineMark.text] at inMark
      · simpa using List.mem_takeWhile_imp inside
    · have stop := List.head?_dropWhile_not (fun c => c != '\n') t
      cases tail : t.dropWhile (fun c => c != '\n') with
      | nil => exact .inl rfl
      | cons c rest =>
        obtain rfl : c = '\n' := by simpa [tail] using stop
        exact .inr rfl
  · exact fits_piece_commentOf (not_isInfix_inside_scanBlock t) (rest_scanBlock_of_not_closed t)
  · cases closed : (mark.scan t).closed with
    | true =>
      obtain ⟨encloses, single⟩ := mark.encloses_inside_scan t closed
      exact .closedQuote encloses single
    | false =>
      have leavesOpen := mark.leavesOpen_inside_scan t closed
      rw [mark.rest_scan_of_not_closed t closed]
      simpa [Segment.piece, Segment.kind, Segment.text, Segment.body, isTerminated] using
        Piece.Fits.openQuote leavesOpen

/-- A comment that follows the rules is read as far as it goes. -/
theorem segmentAt?_comment {closed : Bool} (noEnd : ¬ ['*', '/'] <:+: inside)
    (ends : closed = false → rest = []) :
    segmentAt? ('/' :: '*' :: inside ++ blockEnd closed ++ rest) =
      some (commentOf inside closed, rest) := by
  have found : scanBlock (inside ++ (blockEnd closed ++ rest)) = ⟨inside, closed, rest⟩ := by
    cases closed with
    | true => exact scanBlock_append_end noEnd rest
    | false =>
      rw [ends rfl, blockEnd, if_neg Bool.false_ne_true, List.append_nil, List.append_nil,
        scanBlock_eq_self noEnd]
  rw [List.cons_append, List.cons_append, List.cons_append, List.cons_append, List.append_assoc,
    segmentAt?_block, found]

theorem commentOf_of_no_mark {closed : Bool}
    (noMark : ∀ mark : ExecutableMark,
      ¬ '/' :: '*' :: mark.text <+: '/' :: '*' :: inside ++ blockEnd closed) :
    commentOf inside closed = .blockComment inside closed := by
  unfold commentOf
  split
  · exact absurd ⟨_, rfl⟩ (noMark .anyServer)
  · exact absurd ⟨_, rfl⟩ (noMark .mariaDb)
  · rfl

/-- A quoted text or comment that follows the rules is read as such. -/
theorem Piece.Fits.segmentAt? (fits : p.Fits rest) (other : p.kind ≠ .code) :
    ∃ s, Sql.segmentAt? (p.text ++ rest) = some (s, rest) ∧ s.piece = p := by
  -- Each rule for a piece fixes what the scan finds in it and where the scan stops.
  cases fits with
  | code unopened => exact absurd rfl other
  | @closedQuote mark inside rest encloses single =>
    refine ⟨.quoted mark inside true, ?_, rfl⟩
    rw [List.append_assoc, List.cons_append, segmentAt?_quote, List.singleton_append,
      mark.scan_append_mark encloses single]
  | @openQuote mark inside leavesOpen =>
    refine ⟨.quoted mark inside false, ?_, by simp [Segment.piece, Segment.text, Segment.kind,
      Segment.body, isTerminated]⟩
    rw [List.append_nil, segmentAt?_quote, mark.scan_of_leavesOpen leavesOpen]
  | @lineComment mark inside rest oneLine ends =>
    have noBreak : ∀ c ∈ inside, (c != '\n') = true := by
      intro c member
      rw [bne_iff_ne]
      rintro rfl
      exact oneLine (List.mem_append_right _ member)
    have stop : rest.takeWhile (· != '\n') = [] ∧ rest.dropWhile (· != '\n') = rest := by
      obtain rfl | first := ends
      · exact ⟨rfl, rfl⟩
      · obtain ⟨t, rfl⟩ := List.head?_eq_some_iff.mp first
        exact ⟨rfl, rfl⟩
    have found : lineFrom mark (inside ++ rest) = (.lineComment mark inside, rest) := by
      rw [lineFrom, List.takeWhile_append_of_pos noBreak, List.dropWhile_append_of_pos noBreak,
        stop.1, stop.2, List.append_nil]
    refine ⟨.lineComment mark inside, ?_, rfl⟩
    rw [← found, List.append_assoc]
    cases mark <;> rfl
  | @blockComment inside rest closed noEnd ends noMark =>
    refine ⟨.blockComment inside closed, ?_, rfl⟩
    rw [segmentAt?_comment noEnd ends, commentOf_of_no_mark noMark]
  | @executableComment mark version body rest closed noEnd ends digits noDigit =>
    refine ⟨.executableComment mark version body closed, ?_, by simp [Segment.piece, Segment.text,
      Segment.kind, Segment.body, isTerminated]⟩
    rw [segmentAt?_comment noEnd ends, commentOf_mark_append digits noDigit]

/-! ### Decompositions -/

/-- The segments of a text are a decomposition. -/
theorem decomposition_split (text : List Char) :
    Decomposition text ((split text).map Segment.piece) where
  whole := by rw [flatMap_text_map_piece, textOfAll_split]
  nonempty := List.forall_mem_map.mpr (text_ne_nil_of_mem_split text)
  apart := by
    refine List.isChain_map_of_isChain _ (fun s r between => ?_) (isChain_split text)
    rintro ⟨first, second⟩
    obtain ⟨t, rfl⟩ := s.kind_eq_code_iff.mp first
    obtain ⟨u, rfl⟩ := r.kind_eq_code_iff.mp second
    exact between t u rfl rfl
  fits front p later eq := by
    obtain ⟨before, back, whole, rfl, tail⟩ := List.map_eq_append_iff.mp eq
    obtain ⟨s, after, rfl, rfl, rfl⟩ := List.map_eq_cons_iff.mp tail
    rw [flatMap_text_map_piece]
    have reads : Reads (s :: after) := .of_append (whole ▸ reads_split text)
    cases s with
    | code t => exact .code (noOpening_iff.mp reads.1)
    | _ => exact Segment.fits_of_segmentAt? reads.1

/-- Nothing follows a segment that lacks its closing delimiter. -/
theorem eq_nil_of_not_isTerminated {front later : List Segment}
    (eq : split text = front ++ s :: later) (unclosed : s.isTerminated = false) : later = [] := by
  have place : (split text).map Segment.piece =
      front.map Segment.piece ++ s.piece :: later.map Segment.piece := by
    rw [eq, List.map_append, List.map_cons]
  have last := ((decomposition_split text).fits _ _ _ place).eq_nil_of_not_terminated unclosed
  rw [flatMap_text_map_piece] at last
  cases later with
  | nil => rfl
  | cons r later =>
    have nonempty : r.text ≠ [] := text_ne_nil_of_mem_split text r (by simp [eq])
    rw [textOfAll_cons] at last
    exact absurd (List.append_eq_nil_iff.mp last).1 nonempty

theorem Decomposition.tail (decomposition : Decomposition text (p :: later)) :
    Decomposition (later.flatMap Piece.text) later where
  whole := rfl
  nonempty q member := decomposition.nonempty q (List.mem_cons_of_mem p member)
  apart := decomposition.apart.tail
  fits front q back eq := decomposition.fits (p :: front) q back (by rw [eq, List.cons_append])

/-- A decomposition has no other pieces than the segments. -/
theorem Decomposition.eq_split (decomposition : Decomposition text pieces) :
    pieces = (split text).map Segment.piece := by
  induction pieces generalizing text with
  | nil =>
    obtain rfl : [] = text := decomposition.whole
    rw [split_nil, List.map_nil]
  | cons p later ih =>
    have tail := ih decomposition.tail
    have fits := decomposition.fits [] p later rfl
    have nonempty := decomposition.nonempty p List.mem_cons_self
    have apart := (List.isChain_cons.mp decomposition.apart).1
    obtain rfl : p.text ++ later.flatMap Piece.text = text := decomposition.whole
    generalize later.flatMap Piece.text = rest at tail fits ⊢
    by_cases isCode : p.kind = .code
    · cases fits with
      | @code t rest unopened =>
        -- The next piece is not code, so the characters of this one stay by themselves.
        have other : ∀ u more, split rest ≠ .code u :: more := by
          intro u more eq
          rw [eq, List.map_cons] at tail
          exact apart _ (by rw [tail]; rfl) ⟨rfl, rfl⟩
        rw [split_code_append (noOpening_iff.mpr unopened), foldr_consCode nonempty other,
          List.map_cons, ← tail]
        rfl
      | _ => cases isCode
    · obtain ⟨s, found, rfl⟩ := fits.segmentAt? isCode
      rw [split_of_segmentAt? found, List.map_cons, ← tail]

/-- The segments of a text are its only decomposition. -/
theorem decomposition_iff :
    Decomposition text pieces ↔ pieces = (split text).map Segment.piece :=
  ⟨Decomposition.eq_split, fun same => same ▸ decomposition_split text⟩

end QueryGate.Sql
