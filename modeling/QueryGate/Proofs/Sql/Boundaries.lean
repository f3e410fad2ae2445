import QueryGate.Proofs.Sql.Decomposition

/-!
# Cuts between segments

What stands in front of a segment has no part in how it is read, and of what stands behind it only
two things count: whether there is anything, and with which character it begins. A cut between two
segments changes neither for the segments on its two sides, save that a text may now end there. So
any segments in a row are what the lexer finds in their own text.

## Main results

* `Piece.Fits.of_head?` — what may follow a piece in the place of what does
* `Segment.piece_injective` — a segment is known from its sort, text, body and end
* `reads_cons_iff` — segments are what the lexer reads if each follows the rules for its sort
* `Decomposition.of_isInfix` — pieces in a row are the decomposition of their own text
* `split_textOfAll_run` — segments in a row are found again in their own text
-/

namespace QueryGate.Sql

open Segment Text

variable {text rest rest' : List Char} {p : Piece} {pieces run : List Piece} {s : Segment}
  {segments : List Segment}

/-! ### What follows a piece -/

/-- A piece follows the rules before one text if it does before another that ends where the first
does and begins as the first does, if not with a space. Only the end of a line comment is no place
for a space. -/
theorem Piece.Fits.of_head? (fits : p.Fits rest) (ends : rest = [] → rest' = [])
    (starts : ∀ c, rest'.head? = some c →
      rest.head? = some c ∨ c = ' ' ∧ p.kind ≠ .lineComment) : p.Fits rest' := by
  -- No mark that opens or closes anything has a space in it.
  have visible {c : Char} (mark : c ≠ ' ') (first : rest'.head? = some c) : rest.head? = some c :=
    (starts c first).resolve_right fun space => mark space.1
  cases fits with
  | code unopened =>
    refine .code fun a b eq nonempty => ?_
    have here := unopened a b eq nonempty
    obtain ⟨c, b, rfl⟩ := List.exists_cons_of_ne_nil nonempty
    -- A mark has at most two characters, so it reaches at most one beyond the code.
    have second {d : Char} (mark : d ≠ ' ') (next : (b ++ rest').head? = some d) :
        (b ++ rest).head? = some d := by
      cases b with
      | nil => exact visible mark next
      | cons e b => exact next
    rw [List.cons_append, not_opens_cons_iff, segmentAt?_eq_none_iff] at here ⊢
    obtain ⟨quote, hash, dashes, block⟩ := here
    exact ⟨quote, hash, fun ⟨dash, next⟩ => dashes ⟨dash, second (by decide) next⟩,
      fun ⟨slash, next⟩ => block ⟨slash, second (by decide) next⟩⟩
  | @closedQuote mark inside rest encloses single =>
    refine .closedQuote encloses fun first => single (visible ?_ first)
    cases mark <;> decide
  | openQuote leavesOpen =>
    rw [ends rfl]
    exact .openQuote leavesOpen
  | lineComment oneLine lineEnds =>
    refine .lineComment oneLine ?_
    cases first : rest'.head? with
    | none => exact .inl (List.head?_eq_none_iff.mp first)
    | some c =>
      have same := (starts c first).resolve_right fun space => space.2 rfl
      obtain rfl | newline := lineEnds
      · cases same
      · exact .inr (same.symm.trans newline)
  | blockComment noEnd open? noMark =>
    exact .blockComment noEnd (fun unclosed => ends (open? unclosed)) noMark
  | executableComment noEnd open? digits noDigit =>
    exact .executableComment noEnd (fun unclosed => ends (open? unclosed)) digits noDigit

/-! ### Segments and their pieces -/

/-- A segment is known from its sort, its text, its body and whether it ends. -/
theorem Segment.piece_injective : Function.Injective Segment.piece := by
  intro s r same
  have texts : s.text = r.text := congrArg Piece.text same
  have bodies : s.body = r.body := congrArg Piece.body same
  have ends : s.isTerminated = r.isTerminated := congrArg Piece.terminated same
  have kinds : s.kind = r.kind := congrArg Piece.kind same
  -- The delimiters are known from the sort and the end, and so is what stands between them.
  cases s with
  | code t =>
    cases r with
    | code u => exact congrArg Segment.code texts
    | _ => cases kinds
  | quoted mark inside closed =>
    cases r with
    | quoted mark' inside' closed' =>
      obtain rfl : closed = closed' := ends
      obtain ⟨chars, tails⟩ := List.cons.inj texts
      obtain rfl := QuoteMark.char_injective chars
      rw [List.append_cancel_right tails]
    | _ => cases kinds
  | lineComment mark inside =>
    cases r with
    | lineComment mark' inside' =>
      cases mark <;> cases mark' <;> simp_all [Segment.text, LineMark.text]
    | _ => cases kinds
  | blockComment inside closed =>
    cases r with
    | blockComment inside' closed' =>
      obtain rfl : closed = closed' := ends
      simpa [Segment.text] using texts
    | _ => cases kinds
  | executableComment mark version body closed =>
    cases r with
    | executableComment mark' version' body' closed' =>
      obtain rfl : closed = closed' := ends
      obtain rfl : body = body' := bodies
      cases mark <;> cases mark' <;> simp_all [Segment.text, ExecutableMark.text]
    | _ => cases kinds

/-- Segments are what the lexer reads if each of them follows the rules for its sort. -/
theorem reads_cons_iff :
    Reads (s :: segments) ↔ s.piece.Fits (textOfAll segments) ∧ Reads segments := by
  by_cases isCode : s.kind = .code
  · obtain ⟨t, rfl⟩ := s.kind_eq_code_iff.mp isCode
    refine and_congr_left' ⟨fun noOpening => .code (noOpening_iff.mp noOpening), fun fits => ?_⟩
    cases fits with
    | code unopened => exact noOpening_iff.mpr unopened
  · have other : ∀ t, s ≠ .code t := fun t eq => isCode (s.kind_eq_code_iff.mpr ⟨t, eq⟩)
    rw [reads_cons_of_not_code other]
    refine and_congr_left' ⟨Segment.fits_of_segmentAt?, fun fits => ?_⟩
    obtain ⟨r, found, same⟩ := fits.segmentAt? isCode
    rwa [Segment.piece_injective same] at found

/-! ### Pieces in a row -/

/-- Pieces of a decomposition in a row are the decomposition of their own text. -/
theorem Decomposition.of_isInfix (decomposition : Decomposition text pieces)
    (inside : run <:+: pieces) : Decomposition (run.flatMap Piece.text) run where
  whole := rfl
  nonempty p member := decomposition.nonempty p (inside.subset member)
  apart := List.IsChain.infix decomposition.apart inside
  fits front p later eq := by
    obtain ⟨before, after, rfl⟩ := inside
    have fits := decomposition.fits (before ++ front) p (later ++ after) (by simp [eq])
    rw [List.flatMap_append] at fits
    refine fits.of_head? (fun ends => (List.append_eq_nil_iff.mp ends).1) fun c first => .inl ?_
    rw [List.head?_append, first, Option.some_or]

/-- The segments of a text between two places, cut out and read by themselves, are found again. -/
theorem split_textOfAll_run (text : List Char) (i j : Nat) :
    split (textOfAll (((split text).take j).drop i)) = ((split text).take j).drop i := by
  have inside : ((split text).take j).drop i <:+: split text :=
    (List.drop_suffix i _).isInfix.trans (List.take_prefix j _).isInfix
  -- The run is a decomposition of its own text, and a text has only one.
  have alone := (decomposition_split text).of_isInfix (inside.map Segment.piece)
  rw [flatMap_text_map_piece] at alone
  exact (List.map_injective_iff.mpr Segment.piece_injective alone.eq_split).symm

end QueryGate.Sql
