import QueryGate.Gate.Blocked
import QueryGate.Proofs.Sql.Lexing

/-!
# What the scan for blocked tokens finds

The scan goes from segment to segment, but what it looks at is the whole text: which words there
are, and what stands after each of them. Only the mark of an encoded literal depends on how the
text is cut into segments.

## Main definitions

* `Forbidden` — a word that is blocked wherever it stands
* `BlockedInContext` — a word that is blocked because of what follows it
* `NoEncodedLiteral` — no mark of an encoded literal stands right before a literal

## Main results

* `findBlocked_eq_none_iff` — when a text holds no blocked token
* `blockedWord?_eq_ite`, `blockedWord?_eq_none_iff` — what a word is blocked for, and when it is not
-/

namespace QueryGate.Gate

open Sql Text

variable {tables : List (List Char)} {text after : List Char} {found : WordAt}

/-- A search depends on what it tests the members of a list for only. -/
theorem findSome?_congr_of_mem {α β : Type*} {f f' : α → Option β} {l : List α}
    (same : ∀ a ∈ l, f a = f' a) : l.findSome? f = l.findSome? f' := by
  have mapped (p : α → Option β) : l.findSome? p = (l.map p).findSome? id := by
    rw [List.findSome?_map]
    rfl
  rw [mapped f, mapped f', List.map_congr_left same]

/-- A word that is blocked wherever it stands: a keyword, the name of a blocked table, or a number
written in another base. -/
def Forbidden (tables : List (List Char)) (word : List Char) : Prop :=
  upperText word ∈ Keyword.alwaysBlocked ∨ upperText word ∈ tables ∨
    ∃ mark ∈ Keyword.encodedNumberMarks, mark <+: upperText word

instance (word : List Char) : Decidable (Forbidden tables word) :=
  inferInstanceAs (Decidable (_ ∨ _ ∨ _))

/-- The first visible character of a text. -/
def firstVisible (text : List Char) : Option Char :=
  text.find? isVisible

/-- What follows a word is looked for in the whole text after it. -/
theorem follower_eq (after : List Char) (later : List Segment) :
    follower after later = firstVisible (after ++ Segment.textOfAll later) := by
  rw [follower, firstVisible, List.find?_append, Segment.textOfAll, List.find?_flatMap]
  cases after.find? isVisible <;> rfl

theorem blockedWord?_eq (found : WordAt) (later : List Segment) :
    blockedWord? tables found later =
      blockedWord? tables (found.mapAfter (· ++ Segment.textOfAll later)) [] := by
  have same : follower found.after later =
      follower (found.mapAfter (· ++ Segment.textOfAll later)).after [] := by
    rw [follower_eq, follower_eq, WordAt.after_mapAfter, textOfAll_nil, List.append_nil]
  rw [blockedWord?, blockedWord?, same, WordAt.word_mapAfter]

/-- A function that builds text from character codes, where it is called. -/
def CallsEncoding (found : WordAt) : Prop :=
  upperText found.word ∈ Keyword.encodingFunctions ∧ firstVisible found.after = some '('

/-- The name of a statement that is also a function, where it is not called. -/
def UncalledFunction (found : WordAt) : Prop :=
  upperText found.word ∈ Keyword.functionsOnly ∧ firstVisible found.after ≠ some '('

/-- A schema of the server itself, where it qualifies a name. -/
def QualifiesBySchema (found : WordAt) : Prop :=
  upperText found.word ∈ Keyword.systemSchemas ∧ firstVisible found.after = some '.'

instance (found : WordAt) : Decidable (CallsEncoding found) :=
  inferInstanceAs (Decidable (_ ∧ _))

instance (found : WordAt) : Decidable (UncalledFunction found) :=
  inferInstanceAs (Decidable (_ ∧ _))

instance (found : WordAt) : Decidable (QualifiesBySchema found) :=
  inferInstanceAs (Decidable (_ ∧ _))

/-- A word that is blocked depending on what follows it. -/
def BlockedInContext (found : WordAt) : Prop :=
  CallsEncoding found ∨ UncalledFunction found ∨ QualifiesBySchema found

theorem not_blockedInContext_iff :
    ¬ BlockedInContext found ↔
      ¬ CallsEncoding found ∧ ¬ UncalledFunction found ∧ ¬ QualifiesBySchema found := by
  rw [BlockedInContext, not_or, not_or]

/-- What a word is blocked for, by what it is and what follows it. -/
theorem blockedWord?_eq_ite :
    blockedWord? tables found [] =
      if Forbidden tables found.word then some (upperText found.word)
      else if CallsEncoding found then some (upperText found.word ++ ['(', ')'])
      else if UncalledFunction found ∨ QualifiesBySchema found then some (upperText found.word)
      else none := by
  have everywhere : (Keyword.alwaysBlocked.contains (upperText found.word) ||
      tables.contains (upperText found.word) ||
      Keyword.encodedNumberMarks.any (·.isPrefixOf (upperText found.word))) = true ↔
        Forbidden tables found.word := by
    simp [Forbidden, or_assoc]
  have next : follower found.after [] = firstVisible found.after := by
    rw [follower_eq, textOfAll_nil, List.append_nil]
  have called : (Keyword.encodingFunctions.contains (upperText found.word) &&
      firstVisible found.after == some '(') = true ↔ CallsEncoding found := by
    simp [CallsEncoding]
  have uncalled : (Keyword.functionsOnly.contains (upperText found.word) &&
      firstVisible found.after != some '(') = true ↔ UncalledFunction found := by
    simp [UncalledFunction]
  have schema : (Keyword.systemSchemas.contains (upperText found.word) &&
      firstVisible found.after == some '.') = true ↔ QualifiesBySchema found := by
    simp [QualifiesBySchema]
  -- The last two checks count as one, for both report the word itself.
  simp only [blockedWord?, next, everywhere, called, uncalled, schema, ite_or]

/-- A word is let pass if it is blocked neither everywhere nor where it stands. -/
theorem blockedWord?_eq_none_iff :
    blockedWord? tables found [] = none ↔
      ¬ Forbidden tables found.word ∧ ¬ BlockedInContext found := by
  rw [blockedWord?_eq_ite, BlockedInContext]
  split_ifs <;> simp_all

/-- Whether a word is blocked, and as what, depends on two characters that can follow it. -/
theorem blockedWord?_congr {found' : WordAt} (word : found.word = found'.word)
    (paren : firstVisible found.after = some '(' ↔ firstVisible found'.after = some '(')
    (dot : firstVisible found.after = some '.' ↔ firstVisible found'.after = some '.') :
    blockedWord? tables found [] = blockedWord? tables found' [] := by
  have called : CallsEncoding found ↔ CallsEncoding found' := by
    rw [CallsEncoding, CallsEncoding, word, paren]
  have alone : UncalledFunction found ∨ QualifiesBySchema found ↔
      UncalledFunction found' ∨ QualifiesBySchema found' := by
    simp only [UncalledFunction, QualifiesBySchema, word, ne_eq, paren, dot]
  simp only [blockedWord?_eq_ite, word, called, alone]

/-- No mark of an encoded literal stands right before a literal in single quotes. -/
def NoEncodedLiteral : List Segment → Prop
  | [] => True
  | s :: later => (∀ found ∈ wordsAt s.text, encodedLiteral? s found later = none) ∧
      NoEncodedLiteral later

theorem findBlockedInSegments_eq_none_iff {segments : List Segment} :
    findBlockedInSegments tables segments = none ↔
      (∀ front s later, segments = front ++ s :: later → ∀ found ∈ wordsAt s.text,
        blockedWord? tables found later = none) ∧ NoEncodedLiteral segments := by
  induction segments with
  | nil => simp [findBlockedInSegments, NoEncodedLiteral]
  | cons s later ih =>
    have head : findBlockedInSegment tables s later = none ↔ ∀ found ∈ wordsAt s.text,
        blockedWord? tables found later = none ∧ encodedLiteral? s found later = none := by
      simp [findBlockedInSegment, List.findSome?_eq_none_iff, Option.or_eq_none_iff]
    have unfold : findBlockedInSegments tables (s :: later) = none ↔
        findBlockedInSegment tables s later = none ∧ findBlockedInSegments tables later = none := by
      rw [findBlockedInSegments]
      cases findBlockedInSegment tables s later <;> simp
    rw [unfold, head, ih]
    -- A place among all segments is the first one or a place among the later ones.
    constructor
    · rintro ⟨here, there, encoded⟩
      refine ⟨fun front r back eq => ?_, fun found member => (here found member).2, encoded⟩
      cases front with
      | nil =>
        obtain ⟨rfl, rfl⟩ := List.cons.inj eq
        exact fun found member => (here found member).1
      | cons _ front =>
        obtain ⟨rfl, rfl⟩ := List.cons.inj eq
        exact there front r back rfl
    · rintro ⟨words, encodedHere, encoded⟩
      exact ⟨fun found member => ⟨words [] s later rfl found member, encodedHere found member⟩,
        fun front r back eq => words (s :: front) r back (by rw [eq, List.cons_append]), encoded⟩

/-- A text holds no blocked token if none of its words is blocked where it stands in the whole text,
and no word makes the literal after it an encoded one. -/
theorem findBlocked_eq_none_iff :
    findBlocked tables text = none ↔
      (∀ found ∈ wordsAt text, ¬ Forbidden tables found.word ∧ ¬ BlockedInContext found) ∧
        NoEncodedLiteral (split text) := by
  rw [findBlocked, findBlockedInSegments_eq_none_iff]
  apply and_congr_left'
  constructor
  · intro clean found member
    obtain ⟨front, s, later, eq, u, inside, rfl⟩ := mem_wordsAt_iff.mp member
    rw [← blockedWord?_eq_none_iff, ← blockedWord?_eq]
    exact clean front s later eq u inside
  · intro clean front s later eq found member
    rw [blockedWord?_eq, blockedWord?_eq_none_iff]
    exact clean _ (mem_wordsAt_iff.mpr ⟨front, s, later, eq, found, member, rfl⟩)

/-- The words of a text without blocked tokens. -/
theorem not_forbidden_of_findBlocked (clean : findBlocked tables text = none) :
    ∀ word ∈ words text, ¬ Forbidden tables word := by
  intro word member
  obtain ⟨found, inside, rfl⟩ := List.mem_map.mp member
  exact ((findBlocked_eq_none_iff.mp clean).1 found inside).1

end QueryGate.Gate
