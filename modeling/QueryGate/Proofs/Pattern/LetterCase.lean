import QueryGate.Pattern.Basic
import QueryGate.Proofs.Text.LetterCase

/-!
# Matching without regard to case

A match that ignores case cannot tell a text from the same text with its letters written small: not
by a single character, nor by a class with ranges and complements, nor by a condition on the place,
whatever expression these are put together to.

## Main results

* `Subject.hasItem_toLower` — items of a character class
* `Expression.ends_lowerAscii` — the positions where a match can end
* `accepts_lowerAscii` — the verdict of a written pattern on a whole text
-/

namespace QueryGate.Pattern

open Text

variable {s : Subject} {c : Char}

/-- The subject with the letters of the ASCII set written small. -/
def Subject.lowerAscii (s : Subject) : Subject :=
  { s with text := s.text.map Char.toLower }

/-! ### Single characters -/

theorem caseVariants_toLower (c : Char) : caseVariants c.toLower = caseVariants c := by
  rw [caseVariants, caseVariants, smallLetterFamily, smallLetterFamily, smallLetter_toLower]

theorem mem_caseVariants_self (ascii : c.toNat < 0x80) : c ∈ caseVariants c := by
  have family := smallLetter_mem_smallLetterFamily c
  rw [smallLetter, if_pos ascii] at family
  exact List.mem_flatMap.mpr ⟨_, family, mem_formsOfSmallLetter_toLower c⟩

theorem hasCapital_toLower (low high c : Char) :
    hasCapital low high c.toLower = hasCapital low high c := by
  rw [hasCapital, hasCapital, smallLetter_toLower]

/-- A range that holds a letter holds a variant of it, however that letter is written. -/
theorem hasItem_range_toLower (ignores : s.ignoreCase = true) (low high c : Char) :
    s.hasItem c.toLower (.range low high) = s.hasItem c (.range low high) := by
  by_cases ascii : c.toNat < 0x80
  · -- The letter and its small form are both among its variants, which alone decide.
    have decided {d : Char} (member : d ∈ caseVariants c) (other : Bool) :
        (low ≤ d && d ≤ high || ((caseVariants c).any (fun v => low ≤ v && v ≤ high) || other)) =
          ((caseVariants c).any (fun v => low ≤ v && v ≤ high) || other) := by
      cases inside : (decide (low ≤ d) && decide (d ≤ high)) with
      | false => rfl
      | true => rw [List.any_eq_true.mpr ⟨d, member, inside⟩, Bool.true_or, Bool.true_or]
    have small : c.toLower.toNat < 0x80 := by
      have table : ∀ n < 0x80, (Char.ofNat n).toLower.toNat < 0x80 := by decide
      rw [← Char.ofNat_toNat c]
      exact table c.toNat ascii
    have smallVariant : c.toLower ∈ caseVariants c :=
      caseVariants_toLower c ▸ mem_caseVariants_self small
    rw [Subject.hasItem, Subject.hasItem, ignores, caseVariants_toLower, hasCapital_toLower,
      Bool.true_and, decided smallVariant, decided (mem_caseVariants_self ascii)]
  · rw [toLower_of_beyond_ascii ascii]

theorem Category.contains_toLower (set : Category) (c : Char) :
    set.contains c.toLower = set.contains c := by
  cases set with
  | digit => exact isDecimalDigit_toLower c
  | space => exact isSpace_toLower c
  | word => exact isWordChar_toLower c

theorem Subject.sameChar_toLower (ignores : s.ignoreCase = true) (written c : Char) :
    s.sameChar written c.toLower = s.sameChar written c := by
  rw [sameChar, sameChar, if_pos ignores, if_pos ignores, sameLetter_toLower]

theorem Subject.hasItem_toLower (ignores : s.ignoreCase = true) (item : ClassItem) (c : Char) :
    s.hasItem c.toLower item = s.hasItem c item := by
  cases item with
  | single d => rw [hasItem, hasItem, smallLetter_toLower, sameChar_toLower ignores]
  | range low high => exact hasItem_range_toLower ignores low high c
  | category set complement => rw [hasItem, hasItem, set.contains_toLower]

theorem Subject.inClass_toLower (ignores : s.ignoreCase = true) (items : List ClassItem)
    (c : Char) : s.inClass items c.toLower = s.inClass items c := by
  have each : s.hasItem c.toLower = s.hasItem c := funext fun item => hasItem_toLower ignores item c
  rw [inClass, inClass, each]
  split
  · exact sameChar_toLower ignores _ c
  · rfl

/-! ### Places -/

theorem any_getElem?_lowerAscii {test : Char → Bool} (same : ∀ c, test c.toLower = test c)
    (s : Subject) (i : Nat) : s.lowerAscii.text[i]?.any test = s.text[i]?.any test := by
  rw [Subject.lowerAscii, Array.getElem?_map, Option.any_map]
  congr 1
  exact funext same

theorem Subject.advance_lowerAscii {test : Char → Bool} (same : ∀ c, test c.toLower = test c)
    (s : Subject) : s.lowerAscii.advance test = s.advance test := by
  funext is
  rw [advance, advance]
  simp only [any_getElem?_lowerAscii same]

theorem Subject.isWordEdge_lowerAscii (s : Subject) (i : Nat) :
    s.lowerAscii.isWordEdge i = s.isWordEdge i := by
  simp only [isWordEdge, any_getElem?_lowerAscii isWordChar_toLower]

theorem isLineFeed_lowerAscii (s : Subject) (i : Nat) :
    (s.lowerAscii.text[i]? == some '\n') = (s.text[i]? == some '\n') := by
  rw [Bool.eq_iff_iff, beq_iff_eq, beq_iff_eq, Subject.lowerAscii, Array.getElem?_map]
  cases s.text[i]? <;> simp [toLower_eq_iff (d := '\n') rfl rfl]

/-! ### Expressions -/

/-- A match that ignores case ends at the same positions when letters are written small. -/
theorem Expression.ends_lowerAscii (ignores : s.ignoreCase = true) (e : Expression) :
    e.ends s.lowerAscii = e.ends s := by
  have size : s.lowerAscii.text.size = s.text.size := Array.size_map
  have noText : s.lowerAscii.text.isEmpty = s.text.isEmpty := by
    rw [Array.isEmpty, Array.isEmpty, size]
  funext is
  -- Induction on the expression, for every set of positions from which a match may start.
  induction e generalizing is with
  | empty => rfl
  | char written =>
    have same := fun c => s.sameChar_toLower ignores written c
    exact congrFun (s.advance_lowerAscii same) is
  | anyChar =>
    have same (c : Char) : (c.toLower != '\n') = (c != '\n') :=
      apply_toLower (f := (· != '\n')) (by decide) c
    exact congrFun (s.advance_lowerAscii same) is
  | oneOf complement items =>
    have same (c : Char) : (s.inClass items c.toLower != complement) =
        (s.inClass items c != complement) := by
      rw [s.inClass_toLower ignores]
    exact congrFun (s.advance_lowerAscii same) is
  | textStart => rfl
  | textEnd => simp only [ends, size, isLineFeed_lowerAscii]
  | textLimit => simp only [ends, size]
  | wordEdge complement => simp only [ends, noText, s.isWordEdge_lowerAscii]
  | group name inside ih => exact ih is
  | seq first second ihFirst ihSecond => rw [ends, ends, ihFirst, ihSecond]
  | alt left right ihLeft ihRight => rw [ends, ends, ihLeft, ihRight]
  | repeated inside least most ih =>
    have step : inside.ends s.lowerAscii = inside.ends s := funext ih
    simp only [ends, step, size]
  | lookahead complement inside ih => simp only [ends, ih]

/-- A written pattern cannot tell a text from the same text with its letters written small. -/
theorem accepts_lowerAscii (source : List Char) (meaning : Expression) (text : List Char) :
    (Pattern.expression source true meaning).accepts (lowerAscii text) =
      (Pattern.expression source true meaning).accepts text := by
  have subject : Subject.lowerAscii ⟨text.toArray, true⟩ = ⟨(lowerAscii text).toArray, true⟩ := by
    rw [Subject.lowerAscii, List.map_toArray]
    rfl
  have same := Expression.ends_lowerAscii (s := ⟨text.toArray, true⟩) rfl meaning
  rw [subject] at same
  rw [accepts, accepts, Expression.matchesAll, Expression.matchesAll, same, length_lowerAscii]

end QueryGate.Pattern
