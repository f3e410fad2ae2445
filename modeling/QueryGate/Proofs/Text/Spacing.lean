import Mathlib.Data.List.Chain
import Mathlib.Data.List.DropRight
import QueryGate.Proofs.Text.Words
import QueryGate.Text.Spacing

/-!
# The normal form of a text

Bringing a text into normal form changes white space only. Its words, their order, and everything
else that is not white space stay as they are; so does the question whether something follows a
semicolon.

## Main definitions

* `SingleSpaced` — every white space is one space, and none stands next to another
* `isBlank` — nothing but white space

## Main results

* `wordsAt_normalize`, `words_normalize` — the words of the normal form
* `hasSeparator_normalize` — semicolons in the normal form
* `normalize_normalize` — a normal form is its own normal form
* `hasSeparator_iff`, `hasSeparator_eq_false_iff` — what it means that something follows a semicolon,
  or that nothing does
* `semicolon_notMem_dropSemicolon` — without a separator the final semicolon is the only one
-/

namespace QueryGate.Text

variable {a b t : List Char} {c : Char}

/-! ### Single spaces -/

@[simp] theorem startsWithSpace_nil : startsWithSpace [] = false := rfl

@[simp] theorem startsWithSpace_cons : startsWithSpace (c :: a) = isSpace c := rfl

@[simp] theorem isSpace_space : isSpace ' ' = true := by decide

@[simp] theorem collapse_nil : collapse [] = [] := rfl

theorem collapse_cons_of_space (h : isSpace c = true) :
    collapse (c :: a) = if startsWithSpace a then collapse a else ' ' :: collapse a := by
  simp [collapse, h]

theorem collapse_cons_of_not_space (h : isSpace c = false) :
    collapse (c :: a) = c :: collapse a := by
  simp [collapse, h]

@[simp] theorem startsWithSpace_collapse (a : List Char) :
    startsWithSpace (collapse a) = startsWithSpace a := by
  induction a with
  | nil => rfl
  | cons c a ih =>
    by_cases space : isSpace c = true
    · rw [collapse_cons_of_space space]
      split
      · next starts => simp [ih, starts, space]
      · simp [space]
    · simp [collapse, space]

/-- What the collapsed form of a text depends on at its end is only the collapsed form of the
end. -/
theorem collapse_append_congr (h : collapse a = collapse b) (front : List Char) :
    collapse (front ++ a) = collapse (front ++ b) := by
  have starts : startsWithSpace a = startsWithSpace b := by
    rw [← startsWithSpace_collapse a, h, startsWithSpace_collapse]
  induction front with
  | nil => exact h
  | cons c front ih =>
    have next : startsWithSpace (front ++ a) = startsWithSpace (front ++ b) := by
      cases front with
      | nil => exact starts
      | cons d front => rfl
    simp only [List.cons_append, collapse, ih, next]

/-- A run of white space collapses as one space does. -/
theorem collapse_blank_append {blank : List Char} (nonempty : blank ≠ [])
    (spaces : ∀ c ∈ blank, isSpace c = true) (b : List Char) :
    collapse (blank ++ b) = collapse (' ' :: b) := by
  induction blank with
  | nil => exact absurd rfl nonempty
  | cons c blank ih =>
    have space := spaces c List.mem_cons_self
    by_cases last : blank = []
    · subst last
      simp [collapse_cons_of_space, space]
    · have rest := ih last fun d member => spaces d (List.mem_cons_of_mem _ member)
      have starts : startsWithSpace (blank ++ b) = true := by
        rw [← startsWithSpace_collapse, rest, startsWithSpace_collapse, startsWithSpace_cons,
          isSpace_space]
      rw [List.cons_append, collapse_cons_of_space space, starts, if_pos rfl, rest]

theorem length_collapse_le (a : List Char) : (collapse a).length ≤ a.length := by
  induction a with
  | nil => rfl
  | cons c a ih =>
    simp only [collapse]
    split
    · split <;> simp only [List.length_cons] <;> omega
    · simpa using ih

theorem startsInWord_collapse (a : List Char) :
    startsInWord (collapse a) = startsInWord a := by
  cases a with
  | nil => rfl
  | cons c a =>
    by_cases space : isSpace c = true
    · have first := startsWithSpace_collapse (c :: a)
      revert first
      cases collapse (c :: a) <;> simp +contextual [space, isWordChar_of_isSpace]
    · simp [collapse, space]

theorem wordsAt_collapse (a : List Char) :
    wordsAt (collapse a) = (wordsAt a).map (.mapAfter collapse) := by
  induction a with
  | nil => rfl
  | cons c a ih =>
    by_cases space : isSpace c = true
    · rw [collapse_cons_of_space space, wordsAt_cons_of_not_word (isWordChar_of_isSpace space)]
      split
      · exact ih
      · rw [wordsAt_cons_of_not_word (isWordChar_of_isSpace isSpace_space), ih]
    · rw [collapse_cons_of_not_space (by simpa using space)]
      by_cases word : isWordChar c = true
      · by_cases inside : startsInWord a = true
        · simp [wordsAt, word, startsInWord_collapse, inside, ih, WordAt.extendFirst_map_mapAfter]
        · simp [wordsAt, word, startsInWord_collapse, inside, ih, WordAt.mapAfter]
      · simp [wordsAt, word, ih]

theorem any_not_isSpace_collapse (a : List Char) :
    ((collapse a).any fun c => !isSpace c) = a.any fun c => !isSpace c := by
  induction a with
  | nil => rfl
  | cons c a ih =>
    by_cases space : isSpace c = true
    · rw [collapse_cons_of_space space]
      split <;> simp [ih, space]
    · simp [collapse, space]

/-- Every white space is one space, and none stands next to another. -/
structure SingleSpaced (text : List Char) : Prop where
  eq_space : ∀ c ∈ text, isSpace c = true → c = ' '
  apart : text.IsChain fun c d => isSpace c = true → isSpace d = false

theorem singleSpaced_collapse (a : List Char) : SingleSpaced (collapse a) := by
  induction a with
  | nil => exact ⟨by simp, .nil⟩
  | cons c a ih =>
    -- A character may stand before the collapsed text unless both are white space.
    have head {d : Char} (free : isSpace d = true → startsWithSpace a = false) :
        (d :: collapse a).IsChain fun c d => isSpace c = true → isSpace d = false := by
      refine List.isChain_cons.mpr ⟨fun e first space => ?_, ih.apart⟩
      have starts := startsWithSpace_collapse a
      rw [free space] at starts
      obtain ⟨rest, eq⟩ : ∃ rest, collapse a = e :: rest := by
        cases h : collapse a <;> simp_all
      simpa [eq] using starts
    by_cases space : isSpace c = true
    · rw [collapse_cons_of_space space]
      split
      · exact ih
      · next last =>
        refine ⟨fun d member => ?_, head fun _ => by simpa using last⟩
        rcases List.mem_cons.mp member with rfl | inside
        · exact fun _ => rfl
        · exact ih.eq_space d inside
    · rw [collapse_cons_of_not_space (by simpa using space)]
      refine ⟨fun d member isSpace => ?_, head fun isSpace => absurd isSpace space⟩
      rcases List.mem_cons.mp member with rfl | inside
      · exact absurd isSpace space
      · exact ih.eq_space d inside isSpace

theorem SingleSpaced.collapse_eq (h : SingleSpaced a) : collapse a = a := by
  induction a with
  | nil => rfl
  | cons c a ih =>
    have rest := ih ⟨fun d member => h.eq_space d (List.mem_cons_of_mem _ member), h.apart.tail⟩
    by_cases space : isSpace c = true
    · have next : startsWithSpace a = false := by
        cases a with
        | nil => rfl
        | cons d a => exact (List.isChain_cons_cons.mp h.apart).1 space
      rw [collapse_cons_of_space space, next, rest, h.eq_space c List.mem_cons_self space]
      rfl
    · rw [collapse_cons_of_not_space (by simpa using space), rest]

theorem SingleSpaced.of_isInfix (h : SingleSpaced b) (inside : a <:+: b) : SingleSpaced a :=
  ⟨fun c member => h.eq_space c (inside.subset member), List.IsChain.infix h.apart inside⟩

/-! ### White space at the ends -/

theorem trimEnd_append_singleton (a : List Char) (c : Char) :
    trimEnd (a ++ [c]) = if isSpace c then trimEnd a else a ++ [c] :=
  List.rdropWhile_concat ..

theorem isPrefix_trimEnd (a : List Char) : trimEnd a <+: a := List.rdropWhile_prefix ..

theorem trimEnd_cons (c : Char) (a : List Char) :
    trimEnd (c :: a) = if isSpace c && (trimEnd a).isEmpty then [] else c :: trimEnd a := by
  induction a using List.reverseRecOn with
  | nil => simpa [trimEnd] using trimEnd_append_singleton [] c
  | append_singleton a d ih =>
    rw [← List.cons_append, trimEnd_append_singleton, trimEnd_append_singleton]
    by_cases space : isSpace d = true
    · simpa [space] using ih
    · simp [space]

theorem startsInWord_trimEnd (a : List Char) : startsInWord (trimEnd a) = startsInWord a := by
  cases a with
  | nil => rfl
  | cons c a =>
    rw [trimEnd_cons]
    by_cases space : isSpace c = true
    · split <;> simp [isWordChar_of_isSpace space]
    · simp [space]

theorem wordsAt_trimEnd (a : List Char) :
    wordsAt (trimEnd a) = (wordsAt a).map (.mapAfter trimEnd) := by
  induction a with
  | nil => rfl
  | cons c a ih =>
    rw [trimEnd_cons]
    by_cases space : isSpace c = true
    · have word := isWordChar_of_isSpace space
      by_cases empty : trimEnd a = []
      · rw [empty] at ih
        simpa [wordsAt, space, empty, word] using ih
      · simpa [wordsAt, space, empty, word] using ih
    · by_cases word : isWordChar c = true
      · by_cases inside : startsInWord a = true
        · simp [wordsAt, space, word, startsInWord_trimEnd, inside, ih,
            WordAt.extendFirst_map_mapAfter]
        · simp [wordsAt, space, word, startsInWord_trimEnd, inside, ih, WordAt.mapAfter]
      · simp [wordsAt, space, word, ih]

theorem wordsAt_dropWhile_isSpace (a : List Char) :
    wordsAt (a.dropWhile isSpace) = wordsAt a := by
  induction a with
  | nil => rfl
  | cons c a ih =>
    by_cases space : isSpace c = true
    · simpa [space, wordsAt, isWordChar_of_isSpace space] using ih
    · simp [space]

theorem any_not_isSpace_trimEnd (a : List Char) :
    ((trimEnd a).any fun c => !isSpace c) = a.any fun c => !isSpace c := by
  induction a with
  | nil => rfl
  | cons c a ih =>
    rw [trimEnd_cons, List.any_cons, ← ih]
    split
    · next empty => simp_all
    · rfl

/-! ### Normal forms -/

theorem dropWhile_isSpace_collapse (a : List Char) :
    (collapse a).dropWhile isSpace = collapse (a.dropWhile isSpace) := by
  induction a with
  | nil => rfl
  | cons c a ih =>
    by_cases space : isSpace c = true
    · rw [collapse_cons_of_space space, List.dropWhile_cons_of_pos space]
      split <;> simp [ih]
    · rw [collapse_cons_of_not_space (by simpa using space), List.dropWhile_cons_of_neg space,
        List.dropWhile_cons_of_neg space, collapse_cons_of_not_space (by simpa using space)]

/-- A normal form begins inside a word if the text does so after its white space. -/
theorem startsInWord_normalize (a : List Char) :
    startsInWord (normalize a) = startsInWord (a.dropWhile isSpace) := by
  rw [normalize, trim, startsInWord_trimEnd, dropWhile_isSpace_collapse, startsInWord_collapse]

theorem wordsAt_normalize (a : List Char) :
    wordsAt (normalize a) = (wordsAt a).map (.mapAfter fun rest => trimEnd (collapse rest)) := by
  rw [normalize, trim, wordsAt_trimEnd, wordsAt_dropWhile_isSpace, wordsAt_collapse, List.map_map]
  rfl

theorem words_normalize (a : List Char) : words (normalize a) = words a := by
  simp [words, wordsAt_normalize, Function.comp_def]

theorem countWord_normalize (capitals a : List Char) :
    countWord capitals (normalize a) = countWord capitals a := by
  rw [countWord, words_normalize, countWord]

theorem length_normalize_le (a : List Char) : (normalize a).length ≤ a.length :=
  (isPrefix_trimEnd _).length_le.trans
    ((List.dropWhile_suffix _).length_le.trans (length_collapse_le a))

theorem isInfix_normalize (a : List Char) : normalize a <:+: collapse a :=
  (isPrefix_trimEnd _).isInfix.trans (List.dropWhile_suffix _).isInfix

theorem singleSpaced_normalize (a : List Char) : SingleSpaced (normalize a) :=
  (singleSpaced_collapse a).of_isInfix (isInfix_normalize a)

theorem trimEnd_trimEnd (a : List Char) : trimEnd (trimEnd a) = trimEnd a :=
  List.rdropWhile_idempotent ..

theorem trimEnd_normalize (a : List Char) : trimEnd (normalize a) = normalize a :=
  trimEnd_trimEnd _

theorem startsWithSpace_normalize (a : List Char) : startsWithSpace (normalize a) = false := by
  have front : startsWithSpace ((collapse a).dropWhile isSpace) = false := by
    have := List.head?_dropWhile_not isSpace (collapse a)
    cases h : (collapse a).dropWhile isSpace <;> simp_all
  rw [normalize, trim]
  cases h : (collapse a).dropWhile isSpace with
  | nil => rfl
  | cons c rest =>
    have visible : isSpace c = false := by simpa [h] using front
    simp [trimEnd_cons, visible]

/-- A normal form is its own normal form. -/
theorem normalize_normalize (a : List Char) : normalize (normalize a) = normalize a := by
  have front : (normalize a).dropWhile isSpace = normalize a := by
    have := startsWithSpace_normalize a
    cases h : normalize a <;> simp_all
  rw [normalize, trim, (singleSpaced_normalize a).collapse_eq, front, trimEnd_normalize]

/-! ### Semicolons -/

/-- Whether a text is white space throughout. -/
def isBlank (text : List Char) : Bool :=
  text.all isSpace

theorem isSpace_semicolon : isSpace ';' = false := by decide

theorem ne_semicolon_of_isSpace (space : isSpace c = true) : c ≠ ';' := by
  rintro rfl
  exact Bool.false_ne_true (isSpace_semicolon.symm.trans space)

theorem not_isBlank_eq_any (a : List Char) : (!isBlank a) = a.any fun c => !isSpace c := by
  simp [isBlank, List.not_all_eq_any_not]

theorem isBlank_append : isBlank (a ++ b) = (isBlank a && isBlank b) := List.all_append

theorem semicolon_notMem_of_isBlank (blank : isBlank a = true) : ';' ∉ a := fun member =>
  ne_semicolon_of_isSpace (List.all_eq_true.mp blank _ member) rfl

theorem hasSeparator_cons (c : Char) (a : List Char) :
    hasSeparator (c :: a) = if c = ';' then !isBlank a else hasSeparator a := by
  rw [not_isBlank_eq_any]
  by_cases semicolon : c = ';' <;> simp [hasSeparator, semicolon]

theorem hasSeparator_of_notMem (free : ';' ∉ t) : hasSeparator t = false := by
  induction t with
  | nil => rfl
  | cons c t ih =>
    have other : c ≠ ';' := List.ne_of_not_mem_cons free |>.symm
    rw [hasSeparator_cons, if_neg other, ih (List.not_mem_of_not_mem_cons free)]

/-- Something follows a semicolon in either part, or in the second one if a semicolon stands in the
first. -/
theorem hasSeparator_append (a b : List Char) :
    hasSeparator (a ++ b) =
      (hasSeparator a || (a.contains ';' && !isBlank b) || hasSeparator b) := by
  induction a with
  | nil => rfl
  | cons c a ih =>
    rw [List.cons_append, hasSeparator_cons, hasSeparator_cons, isBlank_append]
    by_cases semicolon : c = ';'
    · -- A separator in the second part needs something visible there, which is enough here.
      have tail : hasSeparator b = true → isBlank b = false := by
        intro separator
        by_contra blank
        have free : ';' ∉ b := semicolon_notMem_of_isBlank (by simpa using blank)
        rw [hasSeparator_of_notMem free] at separator
        cases separator
      cases separator : hasSeparator b <;> cases blank : isBlank b <;> simp_all
    · have other : ';' ≠ c := fun h => semicolon h.symm
      simp [semicolon, other, ih]

theorem hasSeparator_eq_false_iff :
    hasSeparator t = false ↔ ∀ a b, t = a ++ ';' :: b → isBlank b = true := by
  constructor
  · rintro noSeparator a b rfl
    rw [hasSeparator_append, hasSeparator_cons, if_pos rfl, Bool.or_eq_false_iff] at noSeparator
    simpa using noSeparator.2
  · intro blank
    induction t with
    | nil => rfl
    | cons c t ih =>
      rw [hasSeparator_cons]
      split
      · next semicolon => simpa [semicolon] using blank [] t
      · exact ih fun a b eq => blank (c :: a) b (by rw [eq, List.cons_append])

/-- A separator is a semicolon, any white space, and something visible. -/
theorem hasSeparator_iff :
    hasSeparator t = true ↔ ∃ before blank c after,
      t = before ++ ';' :: (blank ++ c :: after) ∧ isBlank blank = true ∧ isSpace c = false := by
  constructor
  · intro separator
    by_contra absent
    have blank : ∀ a b, t = a ++ ';' :: b → isBlank b = true := by
      rintro a b rfl
      by_contra visible
      -- What follows the semicolon has a first character that is no white space.
      cases rest : b.dropWhile isSpace with
      | nil =>
        rw [List.dropWhile_eq_nil_iff] at rest
        exact visible (List.all_eq_true.mpr rest)
      | cons c after =>
        have first : isSpace c = false := by
          simpa [rest] using List.head?_dropWhile_not isSpace b
        refine absent ⟨a, b.takeWhile isSpace, c, after, ?_, ?_, first⟩
        · rw [← rest, List.takeWhile_append_dropWhile]
        · exact List.all_eq_true.mpr fun d member => List.mem_takeWhile_imp member
    rw [hasSeparator_eq_false_iff.mpr blank] at separator
    cases separator
  · rintro ⟨before, blank, c, after, rfl, -, visible⟩
    by_contra absent
    have all := hasSeparator_eq_false_iff.mp (by simpa using absent) before _ rfl
    have space : isSpace c = true := List.all_eq_true.mp all c (by simp)
    simp [space] at visible

/-- Where nothing follows a semicolon there is at most one. -/
theorem count_semicolon_le_one (h : hasSeparator t = false) : t.count ';' ≤ 1 := by
  by_cases member : ';' ∈ t
  · obtain ⟨a, b, rfl, first⟩ := List.eq_append_cons_of_mem member
    have last := semicolon_notMem_of_isBlank (hasSeparator_eq_false_iff.mp h a b rfl)
    simp [List.count_append, List.count_eq_zero_of_not_mem first,
      List.count_eq_zero_of_not_mem last]
  · simp [List.count_eq_zero_of_not_mem member]

theorem hasSeparator_collapse (a : List Char) : hasSeparator (collapse a) = hasSeparator a := by
  induction a with
  | nil => rfl
  | cons c a ih =>
    by_cases space : isSpace c = true
    · rw [collapse_cons_of_space space, hasSeparator_cons, if_neg (ne_semicolon_of_isSpace space)]
      split
      · exact ih
      · rw [hasSeparator_cons, if_neg (by decide), ih]
    · rw [collapse_cons_of_not_space (by simpa using space), hasSeparator_cons, hasSeparator_cons,
        ih, not_isBlank_eq_any, not_isBlank_eq_any, any_not_isSpace_collapse]

theorem hasSeparator_trimEnd (a : List Char) : hasSeparator (trimEnd a) = hasSeparator a := by
  induction a with
  | nil => rfl
  | cons c a ih =>
    rw [trimEnd_cons, hasSeparator_cons, not_isBlank_eq_any, ← any_not_isSpace_trimEnd,
      ← not_isBlank_eq_any, ← ih]
    split
    · next empty =>
      rw [Bool.and_eq_true, List.isEmpty_iff] at empty
      rw [empty.2, if_neg (ne_semicolon_of_isSpace empty.1)]
    · rw [hasSeparator_cons]

theorem hasSeparator_dropWhile_isSpace (a : List Char) :
    hasSeparator (a.dropWhile isSpace) = hasSeparator a := by
  induction a with
  | nil => rfl
  | cons c a ih =>
    by_cases space : isSpace c = true
    · rw [List.dropWhile_cons_of_pos space, ih, hasSeparator_cons,
        if_neg (ne_semicolon_of_isSpace space)]
    · rw [List.dropWhile_cons_of_neg space]

theorem hasSeparator_normalize (a : List Char) : hasSeparator (normalize a) = hasSeparator a := by
  rw [normalize, trim, hasSeparator_trimEnd, hasSeparator_dropWhile_isSpace, hasSeparator_collapse]

/-- A text loses its final semicolon, and the white space before it, or nothing at all. -/
theorem dropSemicolon_cases (a : List Char) :
    (∃ b, a = b ++ [';'] ∧ dropSemicolon a = trimEnd b) ∨ dropSemicolon a = a := by
  by_cases last : a.getLast? = some ';'
  · obtain ⟨b, rfl⟩ := List.getLast?_eq_some_iff.mp last
    exact .inl ⟨b, rfl, by simp [dropSemicolon]⟩
  · exact .inr (by simp [dropSemicolon, last])

theorem isPrefix_dropSemicolon (a : List Char) : dropSemicolon a <+: a := by
  obtain ⟨b, rfl, dropped⟩ | same := dropSemicolon_cases a
  · rw [dropped]
    exact (isPrefix_trimEnd b).trans (List.prefix_append b _)
  · simpa only [same] using List.prefix_refl a

theorem words_dropSemicolon (a : List Char) : words (dropSemicolon a) = words a := by
  obtain ⟨b, rfl, dropped⟩ | same := dropSemicolon_cases a
  · have cut : CleanCut b [';'] := .of_startsInWord (by decide)
    have noWord : words [';'] = [] := by decide
    rw [dropped, words_append cut, noWord, List.append_nil]
    simp [words, wordsAt_trimEnd, Function.comp_def]
  · rw [same]

/-- A trimmed text in which nothing follows a semicolon has none but the final one. -/
theorem semicolon_notMem_dropSemicolon (noSeparator : hasSeparator t = false)
    (trimmed : trimEnd t = t) : ';' ∉ dropSemicolon t := by
  obtain ⟨b, rfl, dropped⟩ | same := dropSemicolon_cases t
  · intro member
    obtain ⟨c, d, rfl⟩ := List.append_of_mem ((isPrefix_trimEnd b).subset (dropped ▸ member))
    have blank := hasSeparator_eq_false_iff.mp noSeparator c (d ++ [';']) (by simp)
    exact semicolon_notMem_of_isBlank blank (by simp)
  · rw [same]
    intro member
    obtain ⟨c, d, rfl⟩ := List.append_of_mem member
    have blank := hasSeparator_eq_false_iff.mp noSeparator c d rfl
    -- What follows the semicolon is blank, so trimming would have reached the semicolon.
    obtain rfl | ⟨e, x, rfl⟩ := List.eq_nil_or_concat' d
    · simp [dropSemicolon] at same
      have shorter := (isPrefix_trimEnd c).length_le
      rw [same, List.length_append, List.length_singleton] at shorter
      omega
    · have space : isSpace x = true := List.all_eq_true.mp blank x (by simp)
      rw [← List.cons_append, ← List.append_assoc, trimEnd_append_singleton, if_pos space]
        at trimmed
      have shorter := (isPrefix_trimEnd (c ++ ';' :: e)).length_le
      rw [trimmed, List.length_append, List.length_singleton] at shorter
      omega

end QueryGate.Text
