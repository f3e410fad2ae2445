import Mathlib.Data.List.Basic
import Mathlib.Data.List.TakeWhile
import QueryGate.Text.Space
import QueryGate.Text.Words

/-!
# Words across cuts

When a text is cut in two, its words are those of the parts unless the cut goes through a word. The
lexer, the removal of comments and the normal form all cut texts, and each of them cuts only where
one of the two neighbouring characters is no word character.

## Main definitions

* `CleanCut` — no word crosses the cut between two texts
* `Apart` — no word crosses a cut between some texts in a row
* `innerWords` — the words of a text that do not begin right where the text does
* `nextWord` — the word that ends at a place, found from left to right

## Main results

* `wordsAt_append`, `words_append` — the words of a text that is put together at a clean cut
* `words_flatMap`, `mem_wordsAt_flatMap` — the same for any number of texts
* `flatten_words` — the words of a text put together
* `isWordChar_of_isSpace` — white space stands in no word
* `forall_wordsAt_after_nil` — the word that reaches the end of a text
* `innerWords_sublist_innerWords_append` — inner words stay words, whatever stands in front
-/

namespace QueryGate.Text

variable {a b : List Char} {c : Char}

/-! ### Characters -/

/-- The code points of white space. -/
def spaceCodes : List Nat :=
  List.range' 0x09 5 ++ List.range' 0x1C 5 ++ [0x85, 0xA0, 0x1680] ++ List.range' 0x2000 11 ++
    [0x2028, 0x2029, 0x202F, 0x205F, 0x3000]

theorem toNat_mem_spaceCodes (h : isSpace c = true) : c.toNat ∈ spaceCodes := by
  simp only [isSpace, Bool.or_eq_true, Bool.and_eq_true, decide_eq_true_eq, beq_iff_eq] at h
  simp only [spaceCodes, List.mem_append, List.mem_range'_1, List.mem_cons, List.not_mem_nil,
    or_false]
  omega

/-- White space and word characters are disjoint. -/
theorem isWordChar_of_isSpace (h : isSpace c = true) : isWordChar c = false := by
  have table : ∀ n ∈ spaceCodes, isWordChar (Char.ofNat n) = false := by decide +kernel
  rw [← Char.ofNat_toNat c]
  exact table _ (toNat_mem_spaceCodes h)

/-! ### Cuts -/

@[simp] theorem startsInWord_nil : startsInWord [] = false := rfl

@[simp] theorem startsInWord_cons : startsInWord (c :: a) = isWordChar c := rfl

/-- Whether a text ends inside a word. -/
def endsInWord (text : List Char) : Bool :=
  text.getLast?.any isWordChar

/-- No word crosses the cut between two texts. -/
def CleanCut (left right : List Char) : Prop :=
  endsInWord left = true → startsInWord right = false

theorem CleanCut.of_startsInWord (h : startsInWord b = false) : CleanCut a b := fun _ => h

theorem CleanCut.of_endsInWord (h : endsInWord a = false) : CleanCut a b :=
  fun ends => absurd ends (by simp [h])

theorem CleanCut.nil_right : CleanCut a [] := .of_startsInWord rfl

@[simp] theorem endsInWord_append_singleton : endsInWord (a ++ [c]) = isWordChar c := by
  simp [endsInWord]

theorem endsInWord_append (h : b ≠ []) : endsInWord (a ++ b) = endsInWord b := by
  rw [endsInWord, List.getLast?_append_of_ne_nil a h, ← endsInWord]

theorem startsInWord_append (h : a ≠ []) : startsInWord (a ++ b) = startsInWord a := by
  cases a with
  | nil => exact absurd rfl h
  | cons c a => rfl

/-- The same word, with a change to the text after it. -/
def WordAt.mapAfter (f : List Char → List Char) (w : WordAt) : WordAt :=
  { w with after := f w.after }

@[simp] theorem WordAt.word_mapAfter (f : List Char → List Char) (w : WordAt) :
    (w.mapAfter f).word = w.word := rfl

@[simp] theorem WordAt.after_mapAfter (f : List Char → List Char) (w : WordAt) :
    (w.mapAfter f).after = f w.after := rfl

theorem WordAt.extendFirst_map_mapAfter (f : List Char → List Char) (c : Char)
    (found : List WordAt) :
    extendFirst c (found.map (mapAfter f)) = (extendFirst c found).map (mapAfter f) := by
  cases found <;> rfl

theorem wordsAt_cons_of_not_word (h : isWordChar c = false) : wordsAt (c :: a) = wordsAt a := by
  simp [wordsAt, h]

theorem wordsAt_eq_nil (outside : ∀ c ∈ a, isWordChar c = false) : wordsAt a = [] := by
  induction a with
  | nil => rfl
  | cons c a ih =>
    rw [wordsAt_cons_of_not_word (outside c List.mem_cons_self)]
    exact ih fun d member => outside d (List.mem_cons_of_mem c member)

/-- A text that begins inside a word has a first word. -/
theorem exists_wordsAt_eq_cons (h : startsInWord a = true) : ∃ w rest, wordsAt a = w :: rest := by
  induction a with
  | nil => simp [startsInWord] at h
  | cons c a ih =>
    have word : isWordChar c = true := h
    by_cases inside : startsInWord a = true
    · obtain ⟨w, rest, found⟩ := ih inside
      exact ⟨{ w with word := c :: w.word }, rest, by
        simp [wordsAt, word, inside, found, WordAt.extendFirst]⟩
    · exact ⟨⟨[c], a⟩, wordsAt a, by simp [wordsAt, word, inside]⟩

/-- What follows a word goes on to the end of the text. -/
theorem isSuffix_after {w : WordAt} (member : w ∈ wordsAt a) : w.after <:+ a := by
  induction a generalizing w with
  | nil => cases member
  | cons c a ih =>
    simp only [wordsAt] at member
    split at member
    · split at member
      · next inside =>
        -- The character lengthens the first word, and what follows that word stays the same.
        obtain ⟨first, rest, found⟩ := exists_wordsAt_eq_cons inside
        rw [found, WordAt.extendFirst] at member
        obtain rfl | later := List.mem_cons.mp member
        · exact (ih (w := first) (by simp [found])).trans (List.suffix_cons c a)
        · exact (ih (by simp [found, later])).trans (List.suffix_cons c a)
      · obtain rfl | later := List.mem_cons.mp member
        · exact List.suffix_cons c a
        · exact (ih later).trans (List.suffix_cons c a)
    · exact (ih member).trans (List.suffix_cons c a)

/-- The words of a text that is put together at a clean cut. -/
theorem wordsAt_append (cut : CleanCut a b) :
    wordsAt (a ++ b) = (wordsAt a).map (.mapAfter (· ++ b)) ++ wordsAt b := by
  induction a with
  | nil => rfl
  | cons c a ih =>
    -- The cut matters to the last character of the first part only.
    by_cases last : a = []
    · subst last
      by_cases word : isWordChar c = true
      · have outside : startsInWord b = false := cut (by simpa [endsInWord] using word)
        simp [wordsAt, word, outside, WordAt.mapAfter]
      · simp [wordsAt, word]
    · have rest := ih fun ends => cut (by rwa [← List.singleton_append, endsInWord_append last])
      have starts := startsInWord_append (b := b) last
      simp only [List.cons_append, wordsAt, starts, rest]
      by_cases word : isWordChar c = true
      · by_cases inside : startsInWord a = true
        · obtain ⟨w, ws, found⟩ := exists_wordsAt_eq_cons inside
          simp [word, inside, found, WordAt.extendFirst, WordAt.mapAfter]
        · simp [word, inside, WordAt.mapAfter]
      · simp [word]

theorem words_append (cut : CleanCut a b) : words (a ++ b) = words a ++ words b := by
  simp [words, wordsAt_append cut, Function.comp_def]

theorem countWord_append (cut : CleanCut a b) (capitals : List Char) :
    countWord capitals (a ++ b) = countWord capitals a + countWord capitals b := by
  simp [countWord, words_append cut]

theorem words_cons_of_not_word (h : isWordChar c = false) : words (c :: a) = words a := by
  rw [words, wordsAt_cons_of_not_word h, ← words]

@[simp] theorem words_nil : words [] = [] := rfl

/-- The words of a text are its word characters in their order, none of them lost. -/
theorem flatten_words (a : List Char) : (words a).flatten = a.filter isWordChar := by
  induction a with
  | nil => rfl
  | cons c a ih =>
    by_cases word : isWordChar c = true
    · rw [List.filter_cons_of_pos word, ← ih]
      by_cases inside : startsInWord a = true
      · obtain ⟨w, ws, found⟩ := exists_wordsAt_eq_cons inside
        simp [words, wordsAt, word, inside, found, WordAt.extendFirst]
      · simp [words, wordsAt, word, inside]
    · rw [List.filter_cons_of_neg word, words_cons_of_not_word (by simpa using word), ih]

/-! ### Several texts in a row -/

/-- No word crosses a cut between some texts in a row. -/
def Apart : List (List Char) → Prop
  | [] => True
  | t :: rest => CleanCut t rest.flatten ∧ Apart rest

section Pieces

variable {α : Type*} {f : α → List Char} {pieces : List α}

theorem words_flatMap (apart : Apart (pieces.map f)) :
    words (pieces.flatMap f) = pieces.flatMap fun p => words (f p) := by
  induction pieces with
  | nil => rfl
  | cons p rest ih =>
    have cut : CleanCut (f p) (rest.flatMap f) := apart.1
    rw [List.flatMap_cons, words_append cut, ih apart.2, List.flatMap_cons]

/-- The words of several texts in a row, each with everything after it. -/
theorem mem_wordsAt_flatMap (apart : Apart (pieces.map f)) {w : WordAt} :
    w ∈ wordsAt (pieces.flatMap f) ↔
      ∃ front p back, pieces = front ++ p :: back ∧
        ∃ u ∈ wordsAt (f p), w = u.mapAfter (· ++ back.flatMap f) := by
  induction pieces with
  | nil => simp [wordsAt]
  | cons p rest ih =>
    have cut : CleanCut (f p) (rest.flatMap f) := apart.1
    rw [List.flatMap_cons, wordsAt_append cut, List.mem_append, ih apart.2]
    constructor
    · rintro (member | ⟨front, q, back, rfl, u, member, rfl⟩)
      · obtain ⟨u, found, rfl⟩ := List.mem_map.mp member
        exact ⟨[], p, rest, rfl, u, found, rfl⟩
      · exact ⟨p :: front, q, back, rfl, u, member, rfl⟩
    · rintro ⟨front, q, back, eq, u, member, rfl⟩
      cases front with
      | nil =>
        obtain ⟨rfl, rfl⟩ := List.cons.inj eq
        exact .inl (List.mem_map_of_mem member)
      | cons _ front =>
        obtain ⟨rfl, rfl⟩ := List.cons.inj eq
        exact .inr ⟨front, q, back, rfl, u, member, rfl⟩

end Pieces

/-! ### Words away from the beginning -/

/-- The words of a text, without one that begins right where the text does: it can be the end of a
longer word once something stands in front of the text. -/
def innerWords (text : List Char) : List (List Char) :=
  if startsInWord text then (words text).tail else words text

theorem innerWords_sublist_words (a : List Char) : (innerWords a).Sublist (words a) := by
  unfold innerWords
  split
  · exact List.tail_sublist _
  · exact List.Sublist.refl _

theorem innerWords_cons (c : Char) (a : List Char) :
    innerWords (c :: a) = if isWordChar c then innerWords a else words a := by
  by_cases word : isWordChar c = true
  · by_cases inside : startsInWord a = true
    · obtain ⟨w, ws, found⟩ := exists_wordsAt_eq_cons inside
      simp [innerWords, words, wordsAt, word, inside, found, WordAt.extendFirst]
    · simp [innerWords, words, wordsAt, word, inside]
  · simp [innerWords, words, wordsAt, word]

/-- Whatever stands in front of a text, its inner words are inner words of the whole. -/
theorem innerWords_sublist_innerWords_append (a b : List Char) :
    (innerWords b).Sublist (innerWords (a ++ b)) := by
  induction a with
  | nil => exact List.Sublist.refl _
  | cons c a ih =>
    rw [List.cons_append, innerWords_cons]
    split
    · exact ih
    · exact ih.trans (innerWords_sublist_words _)

/-! ### First and last words -/

/-- A run of word characters that ends at a clean cut is the first word. -/
theorem wordsAt_append_of_all (nonempty : a ≠ []) (word : ∀ c ∈ a, isWordChar c = true)
    (ends : startsInWord b = false) : wordsAt (a ++ b) = ⟨a, b⟩ :: wordsAt b := by
  induction a with
  | nil => exact absurd rfl nonempty
  | cons c a ih =>
    have first := word c List.mem_cons_self
    by_cases last : a = []
    · subst last
      simp [wordsAt, first, ends]
    · have rest := ih last fun d member => word d (List.mem_cons_of_mem c member)
      have starts : startsInWord (a ++ b) = true := by
        cases a with
        | nil => exact absurd rfl last
        | cons d a => exact word d (by simp)
      simp only [List.cons_append, wordsAt, first, starts, rest, WordAt.extendFirst, if_true]

theorem startsInWord_dropWhile (a : List Char) : startsInWord (a.dropWhile isWordChar) = false := by
  have first := List.head?_dropWhile_not isWordChar a
  cases h : a.dropWhile isWordChar <;> simp_all

/-- The first word of a text that begins inside one. -/
theorem wordsAt_of_startsInWord (starts : startsInWord a = true) :
    wordsAt a = ⟨a.takeWhile isWordChar, a.dropWhile isWordChar⟩ ::
      wordsAt (a.dropWhile isWordChar) := by
  have nonempty : a.takeWhile isWordChar ≠ [] := by
    cases a <;> simp_all
  have word : ∀ c ∈ a.takeWhile isWordChar, isWordChar c = true := fun c => List.mem_takeWhile_imp
  rw [← wordsAt_append_of_all nonempty word (startsInWord_dropWhile a),
    List.takeWhile_append_dropWhile]

/-- The word that ends at a place, one character further on. -/
def nextWord (word : List Char) (c : Char) : List Char :=
  if isWordChar c then word ++ [c] else []

/-- What holds of the word that reaches the end of a text holds of the word that is found by reading
the text from left to right. -/
theorem forall_wordsAt_after_nil {p : List Char → Prop} (empty : p []) (word : List Char)
    (all : ∀ c ∈ word, isWordChar c = true) :
    (∀ w ∈ wordsAt (word ++ a), w.after = [] → p w.word) ↔ p (a.foldl nextWord word) := by
  -- `word` is the part of a word that has been read; the next character goes on with it or ends it.
  induction a generalizing word with
  | nil =>
    by_cases nonempty : word = []
    · subst nonempty
      simp [wordsAt, empty]
    · rw [wordsAt_append_of_all nonempty all startsInWord_nil]
      simp [wordsAt]
  | cons c a ih =>
    by_cases inside : isWordChar c = true
    · have longer : ∀ d ∈ word ++ [c], isWordChar d = true := by
        intro d member
        obtain old | new := List.mem_append.mp member
        · exact all d old
        · exact List.mem_singleton.mp new ▸ inside
      have next : nextWord word c = word ++ [c] := if_pos inside
      rw [List.foldl_cons, next, ← ih _ longer, List.append_assoc]
      rfl
    · have outside : isWordChar c = false := by simpa using inside
      have next : nextWord word c = [] := if_neg inside
      have rest := ih [] (by simp)
      rw [List.foldl_cons, next, ← rest, List.nil_append]
      by_cases nonempty : word = []
      · rw [nonempty, List.nil_append, wordsAt_cons_of_not_word outside]
      · -- The word in front is followed by `c`, so it does not reach the end.
        have ends : startsInWord (c :: a) = false := outside
        rw [wordsAt_append_of_all nonempty all ends, wordsAt_cons_of_not_word outside]
        simp

end QueryGate.Text
