import Mathlib.Data.List.Infix
import QueryGate.Proofs.Sql.Lexing

/-!
# Where quoted texts and comments end

A scan for a closing delimiter goes from left to right. In a quoted text it steps over a mark that
is written twice and over whatever a backslash protects; in a comment it stops at the first `*/`. So
it is known from the inside alone whether the scan goes to its end, and where it stops fixes the
inside.

## Main definitions

* `QuoteMark.Encloses` — a text that can stand between two marks
* `QuoteMark.LeavesOpen` — a text after a mark in which nothing closes it

## Main results

* `QuoteMark.scan_append_mark`, `QuoteMark.scan_of_leavesOpen` — a scan finds such a text again
* `QuoteMark.encloses_inside_scan`, `QuoteMark.leavesOpen_inside_scan` — it finds nothing else
* `scanBlock_append_end`, `scanBlock_eq_self`, `not_isInfix_inside_scanBlock` — the same for
  comments
* `commentOf_mark_append` — the parts of an executable comment
-/

namespace QueryGate.Sql

open Segment Text

variable {text inside rest version body : List Char} {mark : QuoteMark} {c : Char}

/-! ### Quoted texts -/

/-- A text that can stand between two marks: read from left to right, each mark in it is written
twice or stands after a backslash that protects it. -/
inductive QuoteMark.Encloses (mark : QuoteMark) : List Char → Prop
  | nil : Encloses mark []
  | other {c : Char} {t : List Char} (noMark : c ≠ mark.char)
      (noEscape : c = '\\' → mark.escapes = false) (tail : Encloses mark t) : Encloses mark (c :: t)
  | escaped {c : Char} {t : List Char} (escapes : mark.escapes = true) (tail : Encloses mark t) :
      Encloses mark ('\\' :: c :: t)
  | doubled {t : List Char} (tail : Encloses mark t) : Encloses mark (mark.char :: mark.char :: t)

/-- A text after a mark in which nothing closes it. A backslash at the very end has nothing to
protect. -/
def QuoteMark.LeavesOpen (mark : QuoteMark) (text : List Char) : Prop :=
  mark.Encloses text ∨ ∃ front, text = front ++ ['\\'] ∧ mark.escapes = true ∧ mark.Encloses front

theorem QuoteMark.char_ne_backslash (mark : QuoteMark) : mark.char ≠ '\\' := by
  cases mark <;> decide

theorem Enclosed.after_after (front more : List Char) (e : Enclosed) :
    (e.after more).after front = e.after (front ++ more) := by
  simp [Enclosed.after]

/-- A scan steps over a text that can stand between marks. -/
theorem QuoteMark.scan_append (encloses : mark.Encloses inside) (text : List Char) :
    mark.scan (inside ++ text) = (mark.scan text).after inside := by
  -- Along the pieces of the enclosed text: the scan takes each of them as a whole.
  induction encloses with
  | nil => rfl
  | @other c t noMark noEscape tail ih =>
    have unprotected : ¬ (c = '\\' ∧ mark.escapes = true) := by
      rintro ⟨backslash, escapes⟩
      simp [noEscape backslash] at escapes
    rw [List.cons_append]
    cases eq : t ++ text with
    | nil =>
      obtain ⟨rfl, rfl⟩ := List.append_eq_nil_iff.mp eq
      simp [scan, noMark, Enclosed.after]
    | cons d more =>
      rw [eq] at ih
      simp [scan, noMark, unprotected, ih, Enclosed.after_after]
  | @escaped c t escapes tail ih =>
    simp [scan, escapes, ih, Enclosed.after_after]
  | @doubled t tail ih =>
    simp [scan, mark.char_ne_backslash, ih, Enclosed.after_after]

/-- A scan stops at a mark that is not written twice. -/
theorem QuoteMark.scan_append_mark (encloses : mark.Encloses inside)
    (single : rest.head? ≠ some mark.char) :
    mark.scan (inside ++ mark.char :: rest) = ⟨inside, true, rest⟩ := by
  have here : mark.scan (mark.char :: rest) = ⟨[], true, rest⟩ := by
    cases rest with
    | nil => simp [scan]
    | cons d rest =>
      have other : d ≠ mark.char := by simpa using single
      simp [scan, mark.char_ne_backslash, other]
  rw [scan_append encloses, here]
  simp [Enclosed.after]

theorem QuoteMark.scan_of_leavesOpen (leavesOpen : mark.LeavesOpen text) :
    mark.scan text = ⟨text, false, []⟩ := by
  obtain encloses | ⟨front, rfl, escapes, encloses⟩ := leavesOpen
  · have whole := scan_append encloses []
    simpa [scan, Enclosed.after] using whole
  · rw [scan_append encloses]
    simp [scan, mark.char_ne_backslash.symm, Enclosed.after]

/-- What a scan finds between two marks can stand there, and the second mark is not written
twice. -/
theorem QuoteMark.encloses_inside_scan (mark : QuoteMark) (text : List Char)
    (closed : (mark.scan text).closed = true) :
    mark.Encloses (mark.scan text).inside ∧ (mark.scan text).rest.head? ≠ some mark.char := by
  fun_induction QuoteMark.scan mark text with
  | case1 => cases closed
  | case2 c isMark => exact ⟨.nil, by simp⟩
  | case3 c noMark => cases closed
  | case4 c d rest backslash ih =>
    simp only [Bool.and_eq_true, beq_iff_eq] at backslash
    obtain ⟨rfl, escapes⟩ := backslash
    exact ⟨.escaped escapes (ih closed).1, (ih closed).2⟩
  | case5 c d rest unprotected isMark twice ih =>
    simp only [beq_iff_eq] at isMark twice
    subst isMark twice
    exact ⟨.doubled (ih closed).1, (ih closed).2⟩
  | case6 c d rest unprotected isMark once => exact ⟨.nil, by simpa using once⟩
  | case7 c d rest unprotected noMark ih =>
    refine ⟨.other (by simpa using noMark) (fun backslash => ?_) (ih closed).1, (ih closed).2⟩
    simpa [backslash] using unprotected

/-- Where a scan finds no end, nothing in the text closes the mark. -/
theorem QuoteMark.leavesOpen_inside_scan (mark : QuoteMark) (text : List Char)
    (unclosed : (mark.scan text).closed = false) : mark.LeavesOpen (mark.scan text).inside := by
  -- Stepping over a unit in front changes nothing about the end of the text.
  have extend {front t : List Char} (step : ∀ {t}, mark.Encloses t → mark.Encloses (front ++ t))
      (tail : mark.LeavesOpen t) : mark.LeavesOpen (front ++ t) := by
    obtain encloses | ⟨before, rfl, escapes, encloses⟩ := tail
    · exact .inl (step encloses)
    · exact .inr ⟨front ++ before, (List.append_assoc ..).symm, escapes, step encloses⟩
  fun_induction QuoteMark.scan mark text with
  | case1 => exact .inl .nil
  | case2 c isMark => cases unclosed
  | case3 c noMark =>
    by_cases escape : c = '\\' ∧ mark.escapes = true
    · exact .inr ⟨[], by simp [escape.1], escape.2, .nil⟩
    · exact .inl (.other (by simpa using noMark) (by simpa using escape) .nil)
  | case4 c d rest backslash ih =>
    simp only [Bool.and_eq_true, beq_iff_eq] at backslash
    obtain ⟨rfl, escapes⟩ := backslash
    exact extend (.escaped escapes) (ih unclosed)
  | case5 c d rest unprotected isMark twice ih =>
    simp only [beq_iff_eq] at isMark twice
    subst isMark twice
    exact extend .doubled (ih unclosed)
  | case6 c d rest unprotected isMark once => cases unclosed
  | case7 c d rest unprotected noMark ih =>
    refine extend (.other (by simpa using noMark) fun backslash => ?_) (ih unclosed)
    simpa [backslash] using unprotected

/-! ### Comments -/

/-- A scan for the end of a comment stops at the first end. -/
theorem scanBlock_append_end (noEnd : ¬ ['*', '/'] <:+: inside) (rest : List Char) :
    scanBlock (inside ++ '*' :: '/' :: rest) = ⟨inside, true, rest⟩ := by
  induction inside with
  | nil => simp [scanBlock]
  | cons c inside ih =>
    have tail := ih fun found => noEnd (List.infix_cons found)
    cases inside with
    | nil => simp [scanBlock, Enclosed.after]
    | cons d inside =>
      have other : ¬ (c = '*' ∧ d = '/') := by
        rintro ⟨rfl, rfl⟩
        exact noEnd ⟨[], inside, rfl⟩
      rw [List.cons_append] at tail
      simp [scanBlock, other, tail, Enclosed.after]

/-- Without an end a scan goes on to the end of the text. -/
theorem scanBlock_eq_self (noEnd : ¬ ['*', '/'] <:+: text) :
    scanBlock text = ⟨text, false, []⟩ := by
  induction text with
  | nil => rfl
  | cons c text ih =>
    have tail := ih fun found => noEnd (List.infix_cons found)
    cases text with
    | nil => rfl
    | cons d text =>
      have other : ¬ (c = '*' ∧ d = '/') := by
        rintro ⟨rfl, rfl⟩
        exact noEnd ⟨[], text, rfl⟩
      simp [scanBlock, other, tail, Enclosed.after]

/-- No end of a comment stands in what a scan for the first one passes. -/
theorem not_isInfix_inside_scanBlock (text : List Char) :
    ¬ ['*', '/'] <:+: (scanBlock text).inside := by
  fun_induction scanBlock text with
  | case1 => simp
  | case2 c =>
    intro found
    exact absurd found.length_le (by simp)
  | case3 c d text closing => simp
  | case4 c d text other ih =>
    rw [Enclosed.inside_after, List.singleton_append]
    intro found
    rcases List.infix_cons_iff.mp found with first | later
    · -- The two characters would stand where the scan has seen that they do not.
      obtain ⟨rfl, second⟩ := List.cons_prefix_cons.mp first
      obtain ⟨tail, eq⟩ := second
      have whole := scanBlock_text (d :: text)
      rw [← eq, List.append_assoc, List.append_assoc, List.singleton_append] at whole
      obtain ⟨rfl, -⟩ := List.cons.inj whole
      exact other rfl
    · exact ih later

/-- Mark, version and body are taken apart as they were put together. -/
theorem commentOf_mark_append {mark : ExecutableMark} (digits : version.all isDecimalDigit = true)
    (noDigit : body.head?.any isDecimalDigit = false) (closed : Bool) :
    commentOf (mark.text ++ (version ++ body)) closed =
      .executableComment mark version body closed := by
  have stop : body.takeWhile isDecimalDigit = [] ∧ body.dropWhile isDecimalDigit = body := by
    cases body with
    | nil => exact ⟨rfl, rfl⟩
    | cons c body =>
      have first : isDecimalDigit c = false := noDigit
      simp [first]
  have run : (version ++ body).takeWhile isDecimalDigit = version ∧
      (version ++ body).dropWhile isDecimalDigit = body := by
    have all := List.all_eq_true.mp digits
    rw [List.takeWhile_append_of_pos all, List.dropWhile_append_of_pos all, stop.1, stop.2]
    exact ⟨List.append_nil _, rfl⟩
  cases mark <;> simp [commentOf, ExecutableMark.text, commentOf.executable, run]

end QueryGate.Sql
