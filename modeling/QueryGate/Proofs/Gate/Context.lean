import QueryGate.Proofs.Gate.Scan
import QueryGate.Proofs.Sql.Readings

/-!
# What follows a word

Some words are blocked because of the first visible character after them. Spaces and the quotes of
names are passed over, other white space is not. So the normal form of a text can bring a
parenthesis or a dot up to a word where the text had, say, a tab between them; but one that is
already up to a word stays there, whatever becomes of the comments behind it.

## Main results

* `firstVisible_collapse`, `firstVisible_trimEnd` — what follows a word in the normal form
* `called_asExecuted`, `called_normalize` — a statement that is also a function stays a call
* `forall_wordsAt_dropSemicolon` — the final semicolon does not matter to any word
-/

namespace QueryGate.Gate

open Sql Text Segment

variable {a b : List Char} {c d : Char} {text : List Char} {segments later : List Segment}
  {tables : List (List Char)}

theorem firstVisible_cons (c : Char) (a : List Char) :
    firstVisible (c :: a) = if isVisible c then some c else firstVisible a := by
  rw [firstVisible, List.find?_cons]
  cases isVisible c <;> rfl

theorem firstVisible_append_of_some (found : firstVisible a = some c) (b : List Char) :
    firstVisible (a ++ b) = some c := by
  rw [firstVisible] at found ⊢
  rw [List.find?_append, found]
  rfl

/-- Another text behind a text matters only if nothing is visible in front of it. -/
theorem firstVisible_append_of_imp {b' : List Char}
    (behind : firstVisible b = some c → firstVisible b' = some c)
    (found : firstVisible (a ++ b) = some c) : firstVisible (a ++ b') = some c := by
  rw [firstVisible, List.find?_append] at found ⊢
  cases here : a.find? isVisible with
  | some d => simpa [here] using found
  | none =>
    rw [here, Option.none_or] at found
    exact behind found

/-- What is first to be seen in a text is so in front of something else, unless that begins with
it. -/
theorem firstVisible_append_iff (other : firstVisible b ≠ some c) :
    firstVisible (a ++ b) = some c ↔ firstVisible a = some c := by
  rw [firstVisible, List.find?_append, ← firstVisible, ← firstVisible]
  cases firstVisible a with
  | none => simpa using other
  | some d => rfl

/-! ### White space and the end of a text -/

/-- What is first to be seen stays so when white space is collapsed. -/
theorem firstVisible_collapse (visible : isSpace c = false) (found : firstVisible a = some c) :
    firstVisible (collapse a) = some c := by
  induction a with
  | nil => cases found
  | cons d a ih =>
    rw [firstVisible_cons] at found
    by_cases seen : isVisible d = true
    · obtain rfl : d = c := by simpa [seen] using found
      rw [collapse_cons_of_not_space visible, firstVisible_cons, if_pos seen]
    · have rest := ih (by simpa [seen] using found)
      by_cases space : isSpace d = true
      · rw [collapse_cons_of_space space]
        split
        · exact rest
        · rw [firstVisible_cons, if_neg (by decide), rest]
      · rw [collapse_cons_of_not_space (by simpa using space), firstVisible_cons, if_neg seen, rest]

/-- Where every white space is a space, the normal form shows the same characters. -/
theorem firstVisible_collapse_of_spaces (spaces : ∀ c ∈ a, isSpace c = true → c = ' ') :
    firstVisible (collapse a) = firstVisible a := by
  induction a with
  | nil => rfl
  | cons c a ih =>
    have rest := ih fun d member => spaces d (List.mem_cons_of_mem c member)
    by_cases space : isSpace c = true
    · obtain rfl := spaces c List.mem_cons_self space
      have skipped (t : List Char) : firstVisible (' ' :: t) = firstVisible t := rfl
      rw [collapse_cons_of_space space, skipped, ← rest]
      split
      · rfl
      · exact skipped _
    · rw [collapse_cons_of_not_space (by simpa using space), firstVisible_cons, firstVisible_cons,
        rest]

theorem firstVisible_trimEnd (visible : isSpace c = false) :
    firstVisible (trimEnd a) = some c ↔ firstVisible a = some c := by
  constructor
  · intro found
    obtain ⟨rest, eq⟩ := isPrefix_trimEnd a
    rw [← eq]
    exact firstVisible_append_of_some found rest
  · intro found
    induction a with
    | nil => cases found
    | cons d a ih =>
      rw [firstVisible_cons] at found
      rw [trimEnd_cons]
      by_cases seen : isVisible d = true
      · obtain rfl : d = c := by simpa [seen] using found
        simp [visible, firstVisible_cons, seen]
      · -- Something is visible behind, so the end that is trimmed away lies behind it too.
        have rest := ih (by simpa [seen] using found)
        have more : trimEnd a ≠ [] := by
          intro empty
          rw [empty] at rest
          cases rest
        simp [more, firstVisible_cons, seen, rest]

/-- Whether a word is blocked in context depends on two characters that can follow it. -/
theorem blockedInContext_congr {found : WordAt} {f f' : List Char → List Char}
    (paren : firstVisible (f found.after) = some '(' ↔ firstVisible (f' found.after) = some '(')
    (dot : firstVisible (f found.after) = some '.' ↔ firstVisible (f' found.after) = some '.') :
    BlockedInContext (found.mapAfter f) ↔ BlockedInContext (found.mapAfter f') := by
  simp only [BlockedInContext, CallsEncoding, UncalledFunction, QualifiesBySchema,
    WordAt.word_mapAfter, WordAt.after_mapAfter, ne_eq, paren, dot]

/-- The final semicolon, and the white space before it, do not matter to any word. -/
theorem forall_wordsAt_dropSemicolon (text : List Char) :
    (∀ found ∈ wordsAt (dropSemicolon text), ¬ BlockedInContext found) ↔
      ∀ found ∈ wordsAt text, ¬ BlockedInContext found := by
  obtain ⟨front, rfl, dropped⟩ | same := dropSemicolon_cases text
  · have last : wordsAt (front ++ [';']) = (wordsAt front).map (.mapAfter (· ++ [';'])) := by
      rw [wordsAt_append (.of_startsInWord (by decide))]
      exact List.append_nil _
    -- A semicolon is visible, but it is neither of the two characters that matter.
    have keeps (found : WordAt) (c : Char) (space : isSpace c = false) (other : c ≠ ';') :
        firstVisible (trimEnd found.after) = some c ↔
          firstVisible (found.after ++ [';']) = some c := by
      have semicolon : firstVisible [';'] = some ';' := by decide
      rw [firstVisible_trimEnd space, firstVisible, firstVisible, List.find?_append, ← firstVisible,
        ← firstVisible, semicolon]
      cases firstVisible found.after with
      | some d => rfl
      | none => simp [other.symm]
    rw [dropped, wordsAt_trimEnd, last, List.forall_mem_map, List.forall_mem_map]
    refine forall₂_congr fun found _ => not_congr ?_
    exact blockedInContext_congr (keeps found '(' (by decide) (by decide))
      (keeps found '.' (by decide) (by decide))
  · rw [same]

/-! ### Comments -/

/-- A comment begins with a visible character, which is one of three. -/
theorem firstVisible_comment {s : Segment} (comment : s.isComment = true)
    (other : c ∉ ['#', '-', '/']) (rest : List Char) :
    firstVisible (s.text ++ rest) ≠ some c := by
  obtain ⟨d, t, eq, mark⟩ : ∃ d t, s.text = d :: t ∧ d ∈ ['#', '-', '/'] := by
    cases s with
    | lineComment mark inside =>
      cases mark with
      | hash => exact ⟨'#', inside, rfl, by decide⟩
      | dashes => exact ⟨'-', '-' :: inside, rfl, by decide⟩
    | blockComment inside closed => exact ⟨'/', _, rfl, by decide⟩
    | executableComment mark version body closed => exact ⟨'/', _, rfl, by decide⟩
    | _ => cases comment
  have table : ['#', '-', '/'].all isVisible = true := by decide
  have seen : isVisible d = true := List.all_eq_true.mp table d mark
  rw [eq, List.cons_append, firstVisible_cons, if_pos seen, ne_eq, Option.some.injEq]
  rintro rfl
  exact other mark

/-- A parenthesis that is the first to be seen stands before all comments. -/
theorem firstVisible_asExecuted (found : firstVisible (textOfAll segments) = some '(') :
    firstVisible (asExecuted segments) = some '(' := by
  induction segments with
  | nil => cases found
  | cons s later ih =>
    rw [textOfAll_cons] at found
    have plain : s.isComment = false := by
      by_contra comment
      exact firstVisible_comment (by simpa using comment) (by decide) _ found
    rw [asExecuted, List.flatMap_cons, ← asExecuted, isReading_executed.keeps s plain]
    exact firstVisible_append_of_imp ih found

/-- Where no word is blocked, every statement that is also a function is called. -/
theorem called_of_findBlocked (clean : findBlocked tables text = none) {found : WordAt}
    (member : found ∈ wordsAt text) (name : upperText found.word ∈ Keyword.functionsOnly) :
    firstVisible found.after = some '(' := by
  by_contra uncalled
  exact ((findBlocked_eq_none_iff.mp clean).1 found member).2 (.inr (.inl ⟨name, uncalled⟩))

/-- It stays a call in the text that a server runs. -/
theorem called_asExecuted (raw : findBlocked tables text = none)
    (bodies : ∀ s ∈ split text, findBlocked tables s.body = none) :
    ∀ found ∈ wordsAt (asExecuted (split text)), upperText found.word ∈ Keyword.functionsOnly →
      firstVisible found.after = some '(' := by
  intro found member name
  obtain ⟨front, s, later, eq, u, inside, rfl⟩ := mem_wordsAt_asExecuted.mp member
  rw [WordAt.word_mapAfter] at name
  rw [WordAt.after_mapAfter]
  cases comment : s.isComment with
  | true =>
    -- The word was scanned in its body, and more text behind the body hides no parenthesis.
    rw [wordsAt_executed_of_comment comment] at inside
    obtain ⟨w, inBody, rfl⟩ := List.mem_map.mp inside
    have call := called_of_findBlocked (bodies s (by simp [eq])) inBody name
    exact firstVisible_append_of_some (firstVisible_append_of_some call [' ']) _
  | false =>
    rw [isReading_executed.keeps s comment] at inside
    have inText := mem_wordsAt_iff.mpr ⟨front, s, later, eq, u, inside, rfl⟩
    have call := called_of_findBlocked raw inText name
    exact firstVisible_append_of_imp firstVisible_asExecuted call

/-- It stays a call in the normal form of a text. -/
theorem called_normalize
    (called : ∀ found ∈ wordsAt text, upperText found.word ∈ Keyword.functionsOnly →
      firstVisible found.after = some '(') :
    ∀ found ∈ wordsAt (normalize text), upperText found.word ∈ Keyword.functionsOnly →
      firstVisible found.after = some '(' := by
  intro found member name
  rw [wordsAt_normalize] at member
  obtain ⟨w, inside, rfl⟩ := List.mem_map.mp member
  rw [WordAt.after_mapAfter, firstVisible_trimEnd (by decide)]
  exact firstVisible_collapse (by decide) (called w inside name)

end QueryGate.Gate
