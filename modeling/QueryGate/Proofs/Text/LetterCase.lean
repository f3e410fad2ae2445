import Mathlib.Data.List.Flatten
import QueryGate.Proofs.Text.Letters

/-!
# The case of letters

Nothing that is asked of single characters depends on the case of the letters of the ASCII set, save
whether a character is a given letter. So what is done to a text by looking at its characters one by
one commutes with writing these letters small. Upper-casing, which does look at letters, leaves
nothing out: only a whole text has the upper-case form of the whole.

## Main definitions

* `lowerAscii` — a text with the letters of the ASCII set written small

## Main results

* `apply_toLower` — what a function says of all characters it says by its values on the ASCII set
* `wordsAt_lowerAscii`, `normalize_lowerAscii` — words and normal forms of a text written small
* `upperText_lowerAscii`, `sameLetter_toLower` — upper-case forms and case variants
* `eq_of_sublist_of_upperText_eq` — a part of a text with its upper-case form is the whole of it
-/

namespace QueryGate.Text

variable {a b : List Char} {c d : Char}

/-! ### Characters -/

/-- A text with the letters of the ASCII set written small. -/
def lowerAscii (text : List Char) : List Char :=
  text.map Char.toLower

theorem toLower_of_beyond_ascii (beyond : ¬ c.toNat < 0x80) : c.toLower = c := by
  have notCapital : ¬ (c.val ≥ 'A'.val ∧ c.val ≤ 'Z'.val) := by
    rintro ⟨-, high⟩
    have low : c.toNat ≤ 90 := UInt32.le_iff_toNat_le.mp high
    omega
  delta Char.toLower
  rw [dif_neg notCapital]

/-- What does not tell small letters from capitals on the ASCII set never does. -/
theorem apply_toLower {α : Type*} {f : Char → α}
    (table : ∀ n < 0x80, f (Char.ofNat n).toLower = f (Char.ofNat n)) (c : Char) :
    f c.toLower = f c := by
  by_cases ascii : c.toNat < 0x80
  · rw [← Char.ofNat_toNat c]
    exact table c.toNat ascii
  · rw [toLower_of_beyond_ascii ascii]

/-- A character that is no letter is written small as nothing else is. -/
theorem toLower_eq_iff (small : d.toLower = d) (capital : d.toUpper = d) :
    c.toLower = d ↔ c = d := by
  constructor
  · rintro rfl
    rcases eq_toLower_or_eq_toUpper c with same | same
    · exact same
    · exact same.trans capital
  · rintro rfl
    exact small

/-- What is written small is no capital. -/
theorem toLower_ne_of_capital (capital : d.toLower ≠ d) : c.toLower ≠ d := by
  rintro rfl
  exact capital (apply_toLower (f := Char.toLower) (by decide) c)

@[simp] theorem isWordChar_toLower (c : Char) : isWordChar c.toLower = isWordChar c :=
  apply_toLower (by decide) c

@[simp] theorem isSpace_toLower (c : Char) : isSpace c.toLower = isSpace c :=
  apply_toLower (by decide) c

@[simp] theorem isDecimalDigit_toLower (c : Char) : isDecimalDigit c.toLower = isDecimalDigit c :=
  apply_toLower (by decide) c

@[simp] theorem upper_toLower (c : Char) : upper c.toLower = upper c :=
  apply_toLower (by decide) c

@[simp] theorem smallLetter_toLower (c : Char) : smallLetter c.toLower = smallLetter c :=
  apply_toLower (by decide) c

theorem smallLetter_mem_smallLetterFamily (c : Char) :
    (smallLetter c).toNat ∈ smallLetterFamily c := by
  rw [smallLetterFamily]
  cases found : smallLetterFamilies.find? fun family => family.contains (smallLetter c).toNat with
  | none => exact List.mem_singleton.mpr rfl
  | some family => simpa using List.find?_some found

/-- Whether one character is taken for another is a question about small letters. -/
theorem sameLetter_iff :
    sameLetter c d = true ↔ (smallLetter d).toNat ∈ smallLetterFamily c := by
  rw [sameLetter, Bool.or_eq_true, beq_iff_eq, List.contains_iff_mem, or_iff_right_iff_imp]
  rintro rfl
  exact smallLetter_mem_smallLetterFamily c

@[simp] theorem sameLetter_toLower (c d : Char) : sameLetter c d.toLower = sameLetter c d := by
  rw [Bool.eq_iff_iff, sameLetter_iff, sameLetter_iff, smallLetter_toLower]

/-! ### Upper case -/

/-- No character vanishes when it is written in upper case. -/
theorem upper_ne_nil (c : Char) : upper c ≠ [] := by
  rw [upper]
  split
  · exact List.cons_ne_nil _ _
  · rw [upperBeyondAscii]
    split
    · next expansion found =>
      have table : upperExpansions.all (fun row => !row.2.isEmpty) = true := by decide
      obtain ⟨before, after, eq, -⟩ := List.lookup_eq_some_iff.mp found
      have row := List.all_eq_true.mp table (c.toNat, expansion) (by simp [eq])
      simpa using row
    · exact List.cons_ne_nil _ _

theorem upperText_cons (c : Char) (a : List Char) : upperText (c :: a) = upper c ++ upperText a :=
  List.flatMap_cons

/-- What is left of a text has another upper-case form, unless nothing was left out. -/
theorem eq_of_sublist_of_upperText_eq (part : a.Sublist b) (same : upperText a = upperText b) :
    a = b := by
  induction part with
  | slnil => rfl
  | @cons a b c part _ =>
    -- The upper-case form of the character that was left out makes the other text longer.
    have shorter : (upperText a).length ≤ (upperText b).length := (part.flatMap upper).length_le
    have visible := List.length_pos_of_ne_nil (upper_ne_nil c)
    rw [same, upperText_cons, List.length_append] at shorter
    omega
  | @cons_cons a b c part ih =>
    rw [upperText_cons, upperText_cons, List.append_cancel_left_eq] at same
    rw [ih same]

@[simp] theorem upperText_lowerAscii (a : List Char) : upperText (lowerAscii a) = upperText a := by
  rw [upperText, lowerAscii, List.flatMap_map]
  simp only [upper_toLower]
  rfl

/-! ### Words -/

@[simp] theorem lowerAscii_nil : lowerAscii [] = [] := rfl

@[simp] theorem lowerAscii_cons (c : Char) (a : List Char) :
    lowerAscii (c :: a) = c.toLower :: lowerAscii a := rfl

@[simp] theorem lowerAscii_append (a b : List Char) :
    lowerAscii (a ++ b) = lowerAscii a ++ lowerAscii b := List.map_append

@[simp] theorem length_lowerAscii (a : List Char) : (lowerAscii a).length = a.length :=
  List.length_map _

@[simp] theorem startsInWord_lowerAscii (a : List Char) :
    startsInWord (lowerAscii a) = startsInWord a := by
  cases a <;> simp

/-- A word and the text after it, with letters written small. -/
def WordAt.lowerAscii (w : WordAt) : WordAt :=
  ⟨Text.lowerAscii w.word, Text.lowerAscii w.after⟩

theorem wordsAt_lowerAscii (a : List Char) :
    wordsAt (lowerAscii a) = (wordsAt a).map WordAt.lowerAscii := by
  induction a with
  | nil => rfl
  | cons c a ih =>
    by_cases word : isWordChar c = true
    · by_cases inside : startsInWord a = true
      · obtain ⟨w, ws, found⟩ := exists_wordsAt_eq_cons inside
        simp [wordsAt, word, inside, ih, found, WordAt.extendFirst, WordAt.lowerAscii]
      · simp [wordsAt, word, inside, ih, WordAt.lowerAscii]
    · simp [wordsAt, word, ih]

theorem words_lowerAscii (a : List Char) : words (lowerAscii a) = (words a).map lowerAscii := by
  simp [words, wordsAt_lowerAscii, WordAt.lowerAscii, Function.comp_def]

@[simp] theorem countWord_lowerAscii (capitals a : List Char) :
    countWord capitals (lowerAscii a) = countWord capitals a := by
  simp [countWord, words_lowerAscii, List.countP_map, Function.comp_def]

/-! ### Spacing -/

@[simp] theorem startsWithSpace_lowerAscii (a : List Char) :
    startsWithSpace (lowerAscii a) = startsWithSpace a := by
  cases a <;> simp

theorem collapse_lowerAscii (a : List Char) :
    collapse (lowerAscii a) = lowerAscii (collapse a) := by
  induction a with
  | nil => rfl
  | cons c a ih =>
    by_cases space : isSpace c = true
    · by_cases more : startsWithSpace a = true
      · simp [collapse, space, more, ih]
      · simp [collapse, space, more, ih]
    · simp [collapse, space, ih]

theorem dropWhile_isSpace_lowerAscii (a : List Char) :
    (lowerAscii a).dropWhile isSpace = lowerAscii (a.dropWhile isSpace) := by
  rw [lowerAscii, List.dropWhile_map]
  simp only [Function.comp_def, isSpace_toLower]
  rfl

theorem trimEnd_lowerAscii (a : List Char) : trimEnd (lowerAscii a) = lowerAscii (trimEnd a) := by
  have reversed : (lowerAscii a).reverse = lowerAscii a.reverse := List.map_reverse.symm
  rw [trimEnd, reversed, dropWhile_isSpace_lowerAscii, trimEnd]
  exact List.map_reverse.symm

theorem normalize_lowerAscii (a : List Char) :
    normalize (lowerAscii a) = lowerAscii (normalize a) := by
  rw [normalize, trim, collapse_lowerAscii, dropWhile_isSpace_lowerAscii, trimEnd_lowerAscii,
    normalize, trim]

theorem semicolon_mem_lowerAscii_iff : ';' ∈ lowerAscii a ↔ ';' ∈ a := by
  rw [lowerAscii, List.mem_map]
  simp [toLower_eq_iff (d := ';') rfl rfl]

theorem dropSemicolon_lowerAscii (a : List Char) :
    dropSemicolon (lowerAscii a) = lowerAscii (dropSemicolon a) := by
  have last : (lowerAscii a).getLast? = some ';' ↔ a.getLast? = some ';' := by
    rw [lowerAscii, List.getLast?_map]
    cases a.getLast? <;> simp [toLower_eq_iff (d := ';') rfl rfl]
  have front : (lowerAscii a).dropLast = lowerAscii a.dropLast := List.map_dropLast.symm
  rw [dropSemicolon, dropSemicolon]
  by_cases semicolon : a.getLast? = some ';'
  · rw [if_pos (last.mpr semicolon), if_pos semicolon, front, trimEnd_lowerAscii]
  · rw [if_neg (mt last.mp semicolon), if_neg semicolon]

theorem hasSeparator_lowerAscii (a : List Char) :
    hasSeparator (lowerAscii a) = hasSeparator a := by
  induction a with
  | nil => rfl
  | cons c a ih =>
    have blank : isBlank (lowerAscii a) = isBlank a := by
      simp [isBlank, lowerAscii, List.all_map, Function.comp_def]
    rw [lowerAscii_cons, hasSeparator_cons, hasSeparator_cons, blank, ih]
    simp only [toLower_eq_iff (d := ';') rfl rfl]

/-! ### Beginnings -/

theorem afterLetters?_lowerAscii (letters a : List Char) :
    afterLetters? letters (lowerAscii a) = (afterLetters? letters a).map lowerAscii := by
  fun_induction afterLetters? letters a with
  | case1 => rfl
  | case2 => rfl
  | case3 letter letters c a same ih => simp [afterLetters?, same, ih]
  | case4 letter letters c a other => simp [afterLetters?, other]

end QueryGate.Text
