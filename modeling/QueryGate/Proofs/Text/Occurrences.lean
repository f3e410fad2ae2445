import QueryGate.Proofs.Text.Words

/-!
# Where the words of a text stand

Words are found from the end of a text to its beginning, each together with what follows it. What a
word is can also be said without a search: some word characters in a row that have no further one
before or behind them. The two agree, and the words are found in the order in which they stand, so
the first word with some property is the leftmost one.

## Main definitions

* `Occurs` — a word stands at a place of a text

## Main results

* `words_induction` — a text is read word by word
* `Occurs.mem_wordsAt`, `exists_occurs` — the words that are found are those that stand somewhere
* `pairwise_wordsAt` — they are found in the order of their places
* `findSome?_wordsAt_eq_some_iff`, `findSome?_wordsAt_eq_none_iff` — a search through the words
-/

namespace QueryGate.Text

variable {text before word after : List Char} {w : WordAt}

/-- A word stands between two parts of a text: a run of word characters that goes no further to
either side. -/
structure Occurs (text before word after : List Char) : Prop where
  text_eq : text = before ++ (word ++ after)
  nonempty : word ≠ []
  all_word : ∀ c ∈ word, isWordChar c = true
  begins : endsInWord before = false
  ends : startsInWord after = false

/-- What holds of the empty text, and of a text if it holds of what follows its first word or its
first character outside of words, holds of every text. -/
@[elab_as_elim]
theorem words_induction {motive : List Char → Prop} (nil : motive [])
    (gap : ∀ c rest, isWordChar c = false → motive rest → motive (c :: rest))
    (word : ∀ word rest, word ≠ [] → (∀ c ∈ word, isWordChar c = true) →
      startsInWord rest = false → motive rest → motive (word ++ rest))
    (text : List Char) : motive text := by
  match text with
  | [] => exact nil
  | c :: text =>
    -- A word is taken off as a whole, so the recursion is on the length of the text.
    by_cases inside : isWordChar c = true
    · have shorter : ((c :: text).dropWhile isWordChar).length < (c :: text).length := by
        rw [List.dropWhile_cons_of_pos inside]
        exact Nat.lt_succ_of_le (List.dropWhile_suffix _).length_le
      rw [← List.takeWhile_append_dropWhile (p := isWordChar) (l := c :: text)]
      exact word _ _ (by simp [inside]) (fun d => List.mem_takeWhile_imp)
        (startsInWord_dropWhile _) (words_induction nil gap word _)
    · exact gap c text (by simpa using inside) (words_induction nil gap word text)
termination_by text.length
decreasing_by
  · exact shorter
  · exact Nat.lt_succ_self _

/-! ### Places -/

namespace Occurs

/-- The words of a text around one of them. -/
theorem wordsAt_eq (occurs : Occurs text before word after) :
    wordsAt text = (wordsAt before).map (.mapAfter (· ++ (word ++ after))) ++
      ⟨word, after⟩ :: wordsAt after := by
  rw [occurs.text_eq, wordsAt_append (.of_endsInWord occurs.begins),
    wordsAt_append_of_all occurs.nonempty occurs.all_word occurs.ends]

theorem mem_wordsAt (occurs : Occurs text before word after) : ⟨word, after⟩ ∈ wordsAt text := by
  rw [occurs.wordsAt_eq]
  exact List.mem_append_right _ List.mem_cons_self

/-- The place of a word is known from what follows it. -/
theorem length_eq (occurs : Occurs text before word after) :
    text.length = before.length + (word ++ after).length := by
  rw [occurs.text_eq, List.length_append]

/-- A word stands where it did when something is put in front, unless that is a part of it. -/
theorem append_left (occurs : Occurs text before word after) {front : List Char}
    (outside : before = [] → endsInWord front = false) :
    Occurs (front ++ text) (front ++ before) word after where
  text_eq := by rw [occurs.text_eq, List.append_assoc]
  nonempty := occurs.nonempty
  all_word := occurs.all_word
  begins := by
    by_cases first : before = []
    · rw [first, List.append_nil]
      exact outside first
    · rw [endsInWord_append first]
      exact occurs.begins
  ends := occurs.ends

/-- A text that begins outside of words has something in front of each word. -/
theorem before_ne_nil (occurs : Occurs text before word after)
    (outside : startsInWord text = false) : before ≠ [] := by
  rintro rfl
  obtain ⟨c, word, rfl⟩ := List.exists_cons_of_ne_nil occurs.nonempty
  rw [occurs.text_eq] at outside
  have inside : isWordChar c = true := occurs.all_word c List.mem_cons_self
  exact absurd inside (by simpa using outside)

end Occurs

/-- Every word that is found stands somewhere. -/
theorem exists_occurs (member : w ∈ wordsAt text) :
    ∃ before, Occurs text before w.word w.after := by
  induction text using words_induction with
  | nil => cases member
  | gap c rest outside ih =>
    rw [wordsAt_cons_of_not_word outside] at member
    obtain ⟨before, occurs⟩ := ih member
    have alone : endsInWord [c] = false := outside
    exact ⟨[c] ++ before, occurs.append_left fun _ => alone⟩
  | word word rest nonempty all ends ih =>
    rw [wordsAt_append_of_all nonempty all ends, List.mem_cons] at member
    rcases member with rfl | later
    · exact ⟨[], rfl, nonempty, all, rfl, ends⟩
    · obtain ⟨before, occurs⟩ := ih later
      -- What follows this word does not begin with one, so something stands before the later word.
      have apart := occurs.before_ne_nil ends
      exact ⟨word ++ before, occurs.append_left fun first => absurd first apart⟩

theorem length_after_lt (member : w ∈ wordsAt text) : w.after.length < text.length := by
  obtain ⟨before, occurs⟩ := exists_occurs member
  have positive := List.length_pos_of_ne_nil occurs.nonempty
  rw [occurs.length_eq, List.length_append]
  omega

/-- Words are found in the order in which they stand. -/
theorem pairwise_wordsAt (text : List Char) :
    (wordsAt text).Pairwise fun u w => (w.word ++ w.after).length < (u.word ++ u.after).length := by
  induction text using words_induction with
  | nil => exact .nil
  | gap c rest outside ih => rwa [wordsAt_cons_of_not_word outside]
  | word word rest nonempty all ends ih =>
    rw [wordsAt_append_of_all nonempty all ends]
    refine .cons (fun w later => ?_) ih
    obtain ⟨before, occurs⟩ := exists_occurs later
    have inRest := occurs.length_eq
    have positive := List.length_pos_of_ne_nil nonempty
    have whole : (word ++ rest).length = word.length + rest.length := List.length_append
    dsimp only
    omega

/-! ### Searches -/

section Search

variable {β : Type*} {f : WordAt → Option β} {b : β}

theorem findSome?_wordsAt_eq_none_iff :
    (wordsAt text).findSome? f = none ↔
      ∀ before word after, Occurs text before word after → f ⟨word, after⟩ = none := by
  rw [List.findSome?_eq_none_iff]
  constructor
  · intro none before word after occurs
    exact none _ occurs.mem_wordsAt
  · intro none w member
    obtain ⟨before, occurs⟩ := exists_occurs member
    exact none before w.word w.after occurs

/-- The first word with some property is the leftmost one. -/
theorem findSome?_wordsAt_eq_some_iff :
    (wordsAt text).findSome? f = some b ↔
      ∃ before word after, Occurs text before word after ∧ f ⟨word, after⟩ = some b ∧
        ∀ before' word' after', Occurs text before' word' after' →
          before'.length < before.length → f ⟨word', after'⟩ = none := by
  constructor
  · intro found
    obtain ⟨front, w, back, eq, here, none⟩ := List.findSome?_eq_some_iff.mp found
    obtain ⟨before, occurs⟩ : ∃ before, Occurs text before w.word w.after :=
      exists_occurs (by simp [eq])
    refine ⟨before, w.word, w.after, occurs, here, fun before' word' after' earlier less => ?_⟩
    have member := earlier.mem_wordsAt
    rw [eq, List.mem_append, List.mem_cons] at member
    -- The words behind the one that is found stand further to the right.
    have length := earlier.length_eq.symm.trans occurs.length_eq
    rcases member with inFront | rfl | inBack
    · exact none _ inFront
    · dsimp only at length
      omega
    · have sorted := pairwise_wordsAt text
      rw [eq, List.pairwise_append, List.pairwise_cons] at sorted
      have further := sorted.2.1.1 _ inBack
      dsimp only at further
      omega
  · rintro ⟨before, word, after, occurs, here, none⟩
    have front : ((wordsAt before).map (.mapAfter (· ++ (word ++ after)))).findSome? f =
        Option.none := by
      rw [List.findSome?_eq_none_iff]
      intro w member
      have inText : w ∈ wordsAt text := by
        rw [occurs.wordsAt_eq]
        exact List.mem_append_left _ member
      obtain ⟨before', earlier⟩ := exists_occurs inText
      apply none before' w.word w.after earlier
      -- Something of the first part is left of the word, and all of it lies left of the other one.
      obtain ⟨u, inFront, rfl⟩ := List.mem_map.mp member
      obtain ⟨before'', inBefore⟩ := exists_occurs inFront
      have positive := List.length_pos_of_ne_nil inBefore.nonempty
      have place := earlier.length_eq.symm.trans occurs.length_eq
      simp only [WordAt.word_mapAfter, WordAt.after_mapAfter, List.length_append] at place
      omega
    rw [occurs.wordsAt_eq, List.findSome?_append, front, Option.none_or, List.findSome?_cons, here]

end Search

end QueryGate.Text
