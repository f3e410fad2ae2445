import QueryGate.Proofs.Text.Spacing

/-!
# White space and a semicolon around a text

White space around a text is gone in its normal form. A semicolon behind it stays, but it is the
one that is taken off, together with the white space in front of it.

## Main definitions

* `IsEnding` — white space, or one semicolon in front of it

## Main results

* `normalize_blank_append`, `normalize_append_blank` — white space around a text
* `dropSemicolon_normalize_append` — an ending behind a text that has no semicolon
-/

namespace QueryGate.Text

variable {a b t u v tail : List Char} {c : Char}

/-! ### White space -/

theorem mem_of_mem_collapse (visible : isSpace c = false) (member : c ∈ collapse a) : c ∈ a := by
  induction a with
  | nil => exact member
  | cons d a ih =>
    by_cases space : isSpace d = true
    · rw [collapse_cons_of_space space] at member
      split at member
      · exact List.mem_cons_of_mem d (ih member)
      · rcases List.mem_cons.mp member with rfl | later
        · rw [isSpace_space] at visible
          cases visible
        · exact List.mem_cons_of_mem d (ih later)
    · rw [collapse_cons_of_not_space (by simpa using space)] at member
      exact List.mem_cons.mpr ((List.mem_cons.mp member).imp_right ih)

theorem mem_of_mem_normalize (visible : isSpace c = false) (member : c ∈ normalize a) : c ∈ a :=
  mem_of_mem_collapse visible ((isInfix_normalize a).subset member)

/-- The two steps by which white space is taken off in front and collapsed can be exchanged. -/
theorem normalize_eq (a : List Char) : normalize a = trimEnd (collapse (a.dropWhile isSpace)) := by
  rw [normalize, trim, dropWhile_isSpace_collapse]

/-- White space in front of a text is gone in the normal form. -/
theorem normalize_blank_append (blank : isBlank u = true) (a : List Char) :
    normalize (u ++ a) = normalize a := by
  rw [normalize_eq, normalize_eq, List.dropWhile_append_of_pos (List.all_eq_true.mp blank)]

theorem wordsAt_blank_append (blank : isBlank u = true) (a : List Char) :
    wordsAt (u ++ a) = wordsAt a := by
  induction u with
  | nil => rfl
  | cons c u ih =>
    rw [isBlank, List.all_cons, Bool.and_eq_true] at blank
    rw [List.cons_append, wordsAt_cons_of_not_word (isWordChar_of_isSpace blank.1), ih blank.2]

/-- What is taken off at the end of a text is white space. -/
theorem exists_append_blank (a : List Char) : ∃ b, a = trimEnd a ++ b ∧ isBlank b = true := by
  induction a using List.reverseRecOn with
  | nil => exact ⟨[], rfl, rfl⟩
  | append_singleton a c ih =>
    rw [trimEnd_append_singleton]
    split
    · next space =>
      obtain ⟨b, eq, blank⟩ := ih
      refine ⟨b ++ [c], ?_, ?_⟩
      · rw [← List.append_assoc, ← eq]
      · rw [isBlank_append, blank]
        simpa [isBlank] using space
    · exact ⟨[], (List.append_nil _).symm, rfl⟩

theorem trimEnd_collapse_of_isBlank (blank : isBlank v = true) : trimEnd (collapse v) = [] := by
  induction v with
  | nil => rfl
  | cons c v ih =>
    rw [isBlank, List.all_cons, Bool.and_eq_true] at blank
    rw [collapse_cons_of_space blank.1]
    split
    · exact ih blank.2
    · rw [trimEnd_cons, ih blank.2]
      rfl

theorem trimEnd_collapse_append_blank (blank : isBlank v = true) (a : List Char) :
    trimEnd (collapse (a ++ v)) = trimEnd (collapse a) := by
  induction a with
  | nil => exact trimEnd_collapse_of_isBlank blank
  | cons c a ih =>
    rw [List.cons_append]
    by_cases space : isSpace c = true
    · by_cases last : a = []
      · -- All of it is white space, in either text.
        have all : isBlank (c :: v) = true := by simpa [isBlank, space] using blank
        have one : isBlank [c] = true := by simpa [isBlank] using space
        rw [last, List.nil_append, trimEnd_collapse_of_isBlank all, trimEnd_collapse_of_isBlank one]
      · have starts : startsWithSpace (a ++ v) = startsWithSpace a := by
          obtain ⟨d, a, rfl⟩ := List.exists_cons_of_ne_nil last
          rfl
        rw [collapse_cons_of_space space, collapse_cons_of_space space, starts]
        split
        · exact ih
        · rw [trimEnd_cons, trimEnd_cons, ih]
    · have visible : isSpace c = false := by simpa using space
      rw [collapse_cons_of_not_space visible, collapse_cons_of_not_space visible, trimEnd_cons,
        trimEnd_cons, ih]

/-- White space behind a text is gone in the normal form. -/
theorem normalize_append_blank (blank : isBlank v = true) (a : List Char) :
    normalize (a ++ v) = normalize a := by
  have spaces := List.all_eq_true.mp blank
  rw [normalize_eq, normalize_eq, List.dropWhile_append]
  split
  · next empty =>
    rw [List.dropWhile_eq_nil_iff.mpr spaces, List.isEmpty_iff.mp empty]
  · exact trimEnd_collapse_append_blank blank _

/-! ### A semicolon -/

theorem collapse_append_cons (visible : isSpace c = false) (a b : List Char) :
    collapse (a ++ c :: b) = collapse a ++ c :: collapse b := by
  induction a with
  | nil => exact collapse_cons_of_not_space visible
  | cons d a ih =>
    have starts : startsWithSpace (a ++ c :: b) = startsWithSpace a := by
      cases a with
      | nil => exact visible
      | cons e a => rfl
    by_cases space : isSpace d = true
    · rw [List.cons_append, collapse_cons_of_space space, collapse_cons_of_space space, starts, ih]
      split <;> rfl
    · have other : isSpace d = false := by simpa using space
      rw [List.cons_append, collapse_cons_of_not_space other, collapse_cons_of_not_space other, ih,
        List.cons_append]

/-- A semicolon behind a text ends its normal form. -/
theorem normalize_append_semicolon (blank : isBlank v = true) (a : List Char) :
    normalize (a ++ ';' :: v) = collapse (a.dropWhile isSpace) ++ [';'] := by
  have front : (a ++ [';']).dropWhile isSpace = a.dropWhile isSpace ++ [';'] := by
    rw [List.dropWhile_append]
    split
    · next empty =>
      rw [List.isEmpty_iff.mp empty, List.nil_append]
      exact List.dropWhile_cons_of_neg (by simp [isSpace_semicolon])
    · rfl
  have whole : a ++ ';' :: v = (a ++ [';']) ++ v := by simp
  rw [whole, normalize_append_blank blank, normalize_eq, front,
    collapse_append_cons isSpace_semicolon, collapse_nil, trimEnd_append_singleton, if_neg]
  simp [isSpace_semicolon]

/-- It is taken off together with the white space in front of it. -/
theorem dropSemicolon_normalize_append_semicolon (blank : isBlank v = true) (a : List Char) :
    dropSemicolon (normalize (a ++ ';' :: v)) = normalize a := by
  rw [normalize_append_semicolon blank, normalize_eq]
  simp [dropSemicolon]

theorem dropSemicolon_normalize_of_notMem (free : ';' ∉ a) :
    dropSemicolon (normalize a) = normalize a := by
  rw [dropSemicolon, if_neg]
  intro last
  exact free (mem_of_mem_normalize isSpace_semicolon (List.mem_of_getLast? last))

/-! ### Endings -/

/-- White space, or one semicolon in front of it. -/
def IsEnding (tail : List Char) : Prop :=
  isBlank tail = true ∨ ∃ v, tail = ';' :: v ∧ isBlank v = true

namespace IsEnding

theorem of_isSuffix (ending : IsEnding tail) (suffix : t <:+ tail) : IsEnding t := by
  have rest {v t : List Char} (blank : isBlank v = true) (suffix : t <:+ v) : isBlank t = true :=
    List.all_eq_true.mpr fun c member => List.all_eq_true.mp blank c (suffix.subset member)
  rcases ending with blank | ⟨v, rfl, blank⟩
  · exact .inl (rest blank suffix)
  · rcases List.suffix_cons_iff.mp suffix with rfl | inside
    · exact .inr ⟨v, rfl, blank⟩
    · exact .inl (rest blank inside)

theorem eq_semicolon_of_visible (ending : IsEnding tail) (member : c ∈ tail)
    (visible : isSpace c = false) : c = ';' := by
  have inBlank {v : List Char} (blank : isBlank v = true) : c ∉ v := by
    intro inside
    rw [List.all_eq_true.mp blank c inside] at visible
    cases visible
  rcases ending with blank | ⟨v, rfl, blank⟩
  · exact absurd member (inBlank blank)
  · exact (List.mem_cons.mp member).resolve_right (inBlank blank)

theorem notMem (ending : IsEnding tail) (visible : isSpace c = false) (other : c ≠ ';') :
    c ∉ tail :=
  fun member => other (ending.eq_semicolon_of_visible member visible)

/-- An ending goes on with no word. -/
theorem isWordChar_eq_false (ending : IsEnding tail) (member : c ∈ tail) :
    isWordChar c = false := by
  by_cases space : isSpace c = true
  · exact isWordChar_of_isSpace space
  · rw [ending.eq_semicolon_of_visible member (by simpa using space)]
    decide

/-- Nothing follows the semicolon of an ending. -/
theorem hasSeparator_eq_false (ending : IsEnding tail) (free : ';' ∉ a) :
    hasSeparator (a ++ tail) = false := by
  have last : hasSeparator tail = false := by
    rcases ending with blank | ⟨v, rfl, blank⟩
    · exact hasSeparator_of_notMem (semicolon_notMem_of_isBlank blank)
    · rw [hasSeparator_cons, if_pos rfl, blank]
      rfl
  rw [hasSeparator_append, hasSeparator_of_notMem free, last]
  simp [free]

end IsEnding

theorem dropSemicolon_normalize_append (ending : IsEnding tail) (free : ';' ∉ a) :
    dropSemicolon (normalize (a ++ tail)) = dropSemicolon (normalize a) := by
  rcases ending with blank | ⟨v, rfl, blank⟩
  · rw [normalize_append_blank blank]
  · rw [dropSemicolon_normalize_append_semicolon blank, dropSemicolon_normalize_of_notMem free]

end QueryGate.Text
