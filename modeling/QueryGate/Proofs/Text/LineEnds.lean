import Mathlib.Data.List.Chain
import QueryGate.Text.LineEnds

/-!
# Texts in lines

A text falls into lines, each with its end, and a last piece without one. How a line ends can be
read off the text: a carriage return is an end of its own unless a line feed follows it, and then
both together are one end. With its ends unified, the text has the same lines, each with a line feed
behind it, and no carriage return.

## Main definitions

* `LineEnd` — the ways in which a line can end
* `InLines` — how a text falls into lines

## Main results

* `exists_inLines` — every text falls into lines
* `InLines.unifyLineEnds_eq` — the same lines with unified ends
* `carriageReturn_notMem_unifyLineEnds` — no other ends are left
-/

namespace QueryGate.Text

/-- The ways in which a line can end. -/
inductive LineEnd where
  | lineFeed
  | carriageReturn
  | both
  deriving DecidableEq

/-- An end of line as it is written. -/
def LineEnd.text : LineEnd → List Char
  | lineFeed => ['\n']
  | carriageReturn => ['\r']
  | both => ['\r', '\n']

/-- How a text falls into lines, each given with its end, and a last piece. -/
structure InLines (lines : List (List Char × LineEnd)) (last text : List Char) : Prop where
  written : text = (lines.flatMap fun line => line.1 ++ line.2.text) ++ last
  unbroken : ∀ line ∈ lines, '\r' ∉ line.1 ∧ '\n' ∉ line.1
  unbroken_last : '\r' ∉ last ∧ '\n' ∉ last
  /-- A line feed belongs to the carriage return before it. -/
  whole_ends : lines.IsChain fun line next =>
    line.2 = .carriageReturn → next ≠ ([], .lineFeed)

variable {lines : List (List Char × LineEnd)} {line : List Char} {last text : List Char} {c : Char}

theorem unifyLineEnds_cons (ordinary : c ≠ '\r') (text : List Char) :
    unifyLineEnds (c :: text) = c :: unifyLineEnds text := by
  rw [unifyLineEnds]
  · rw [if_neg (by simpa using ordinary)]
  · exact fun _ same _ => ordinary same

theorem unifyLineEnds_carriageReturn (apart : text.head? ≠ some '\n') :
    unifyLineEnds ('\r' :: text) = '\n' :: unifyLineEnds text := by
  rw [unifyLineEnds]
  · rfl
  · rintro rest - rfl
    exact apart rfl

/-- Text without a carriage return is left as it is. -/
theorem unifyLineEnds_append (unbroken : '\r' ∉ line) (text : List Char) :
    unifyLineEnds (line ++ text) = line ++ unifyLineEnds text := by
  induction line with
  | nil => rfl
  | cons c line ih =>
    rw [List.mem_cons, not_or] at unbroken
    rw [List.cons_append, unifyLineEnds_cons (Ne.symm unbroken.1), ih unbroken.2]
    rfl

namespace InLines

theorem of_cons {e : LineEnd} (inLines : InLines ((line, e) :: lines) last text) :
    ∃ rest, text = line ++ (e.text ++ rest) ∧ InLines lines last rest := by
  refine ⟨_, ?_, rfl, ?_, inLines.unbroken_last, inLines.whole_ends.tail⟩
  · rw [inLines.written]
    simp
  · exact fun next member => inLines.unbroken next (List.mem_cons_of_mem _ member)

/-- What follows a carriage return that ends a line is no line feed. -/
theorem head?_ne (inLines : InLines ((line, .carriageReturn) :: lines) last text)
    {rest : List Char} (after : InLines lines last rest) : rest.head? ≠ some '\n' := by
  rw [after.written]
  cases lines with
  | nil =>
    intro first
    exact after.unbroken_last.2 (List.mem_of_mem_head? first)
  | cons next lines =>
    obtain ⟨_ | ⟨c, front⟩, e⟩ := next
    · have other : e ≠ .lineFeed := fun same =>
        (List.isChain_cons_cons.mp inLines.whole_ends).1 rfl (same ▸ rfl)
      cases e with
      | lineFeed => exact absurd rfl other
      | carriageReturn | both => exact nofun
    · intro first
      obtain rfl : c = '\n' := Option.some.inj first
      exact (after.unbroken _ List.mem_cons_self).2 List.mem_cons_self

/-- With its ends unified, a text has the same lines with a line feed behind each of them. -/
theorem unifyLineEnds_eq (inLines : InLines lines last text) :
    unifyLineEnds text = (lines.flatMap fun line => line.1 ++ ['\n']) ++ last := by
  induction lines generalizing text with
  | nil =>
    have rest := unifyLineEnds_append inLines.unbroken_last.1 []
    rw [List.append_nil] at rest
    rw [inLines.written]
    exact rest.trans (List.append_nil _)
  | cons first lines ih =>
    obtain ⟨line, e⟩ := first
    obtain ⟨rest, rfl, after⟩ := inLines.of_cons
    -- The line is left as it is, and its end is one line feed of whichever sort it was.
    have ended : unifyLineEnds (e.text ++ rest) = '\n' :: unifyLineEnds rest := by
      cases e with
      | lineFeed => exact unifyLineEnds_cons (by decide) rest
      | carriageReturn => exact unifyLineEnds_carriageReturn (inLines.head?_ne after)
      | both => rfl
    rw [unifyLineEnds_append (inLines.unbroken _ List.mem_cons_self).1, ended, ih after]
    simp

/-- An empty line in front. -/
theorem cons_nil (inLines : InLines lines last text) (e : LineEnd)
    (whole : e = .carriageReturn → text.head? ≠ some '\n') :
    InLines (([], e) :: lines) last (e.text ++ text) where
  written := by
    rw [inLines.written]
    simp
  unbroken := List.forall_mem_cons.mpr ⟨⟨List.not_mem_nil, List.not_mem_nil⟩, inLines.unbroken⟩
  unbroken_last := inLines.unbroken_last
  whole_ends := by
    refine List.isChain_cons.mpr ⟨fun next first carriage same => ?_, inLines.whole_ends⟩
    -- An empty line that ends with a line feed begins with it.
    obtain ⟨lines, rfl⟩ := List.head?_eq_some_iff.mp first
    apply whole carriage
    rw [inLines.written, same]
    rfl

/-- A character that ends no line in front of the first line. -/
theorem cons_char (inLines : InLines lines last text) (noReturn : c ≠ '\r') (noFeed : c ≠ '\n') :
    ∃ lines last, InLines lines last (c :: text) := by
  have unbroken {piece : List Char} (clean : '\r' ∉ piece ∧ '\n' ∉ piece) :
      '\r' ∉ c :: piece ∧ '\n' ∉ c :: piece :=
    ⟨List.not_mem_cons_of_ne_of_not_mem (Ne.symm noReturn) clean.1,
      List.not_mem_cons_of_ne_of_not_mem (Ne.symm noFeed) clean.2⟩
  cases lines with
  | nil =>
    refine ⟨[], c :: last, ?_, nofun, unbroken inLines.unbroken_last, .nil⟩
    rw [inLines.written]
    rfl
  | cons first lines =>
    obtain ⟨here, later⟩ := List.forall_mem_cons.mp inLines.unbroken
    refine ⟨(c :: first.1, first.2) :: lines, last, ?_,
      List.forall_mem_cons.mpr ⟨unbroken here, later⟩, inLines.unbroken_last, ?_⟩
    · rw [inLines.written]
      rfl
    · obtain ⟨next, tail⟩ := List.isChain_cons.mp inLines.whole_ends
      exact List.isChain_cons.mpr ⟨next, tail⟩

end InLines

/-- Every text falls into lines. -/
theorem exists_inLines (text : List Char) : ∃ lines last, InLines lines last text := by
  fun_induction unifyLineEnds text with
  | case1 => exact ⟨[], [], rfl, nofun, ⟨nofun, nofun⟩, .nil⟩
  | case2 rest ih =>
    obtain ⟨lines, last, inLines⟩ := ih
    exact ⟨_, last, inLines.cons_nil .both nofun⟩
  | case3 c rest apart ih =>
    obtain ⟨lines, last, inLines⟩ := ih
    by_cases carriage : c = '\r'
    · subst carriage
      refine ⟨_, last, inLines.cons_nil .carriageReturn fun _ first => ?_⟩
      obtain ⟨after, rfl⟩ := List.head?_eq_some_iff.mp first
      exact apart after rfl rfl
    · by_cases feed : c = '\n'
      · subst feed
        exact ⟨_, last, inLines.cons_nil .lineFeed nofun⟩
      · exact inLines.cons_char carriage feed

theorem carriageReturn_notMem_unifyLineEnds (text : List Char) :
    '\r' ∉ unifyLineEnds text := by
  obtain ⟨lines, last, inLines⟩ := exists_inLines text
  rw [inLines.unifyLineEnds_eq, List.mem_append, List.mem_flatMap]
  rintro (⟨line, member, inside⟩ | inside)
  · rcases List.mem_append.mp inside with within | ending
    · exact (inLines.unbroken line member).1 within
    · cases List.mem_singleton.mp ending
  · exact inLines.unbroken_last.1 inside

end QueryGate.Text
