import Mathlib.Computability.Language
import QueryGate.Proofs.Pattern.Matching

/-!
# The language of an expression

Without conditions on the place in the text, whether an expression matches a stretch of the text
depends on that stretch alone. So it has a language: union for alternatives, concatenation for
sequences, powers for repetitions. The matcher accepts exactly the words of that language.

## Main definitions

* `Expression.isPlain` — an expression without conditions on the place
* `repetition` — the words made of a bounded number of words
* `Expression.language` — the words that such an expression matches
* `Spans` — a relation between positions leads across the words of a language

## Main results

* `Expression.matchesAll_iff_mem_language` — a whole text is matched if it is in the language
-/

namespace QueryGate.Pattern

open scoped Computability

variable {text : List Char} {R S : Nat → Nat → Prop} {L M : Language Char} {e : Expression}
  {ignoreCase : Bool}

/-- The words of one character that satisfies a condition. -/
def single (test : Char → Bool) : Language Char :=
  {t | ∃ c, test c = true ∧ t = [c]}

/-- The words that consist of words of a language, of at least `least` and at most `most` if there
is a bound. -/
def repetition {α : Type} (L : Language α) (least : Nat) (most : Option Nat) : Language α :=
  {t | ∃ n, least ≤ n ∧ (∀ m ∈ most, n ≤ max least m) ∧ t ∈ L ^ n}

/-- A subject without a text, for questions about a character alone. -/
abbrev bare (ignoreCase : Bool) : Subject := ⟨#[], ignoreCase⟩

/-- The words that an expression matches. Conditions on the place have none of their own. -/
def Expression.language (ignoreCase : Bool) : Expression → Language Char
  | .empty => 1
  | .char c => single ((bare ignoreCase).sameChar c)
  | .anyChar => single (· != '\n')
  | .oneOf complement items => single fun c => (bare ignoreCase).inClass items c != complement
  | .group _ inside => inside.language ignoreCase
  | .seq first second => first.language ignoreCase * second.language ignoreCase
  | .alt left right => left.language ignoreCase + right.language ignoreCase
  | .repeated inside least most => repetition (inside.language ignoreCase) least most
  | .textStart | .textEnd | .textLimit | .wordEdge _ | .lookahead .. => 0

/-- Whether an expression has no condition on the place in the text. -/
def Expression.isPlain : Expression → Bool
  | .group _ inside | .repeated inside _ _ => inside.isPlain
  | .seq a b | .alt a b => a.isPlain && b.isPlain
  | .textStart | .textEnd | .textLimit | .wordEdge _ | .lookahead .. => false
  | _ => true

theorem mem_repetition {α : Type} {L : Language α} {t : List α} {least : Nat} {most : Option Nat} :
    t ∈ repetition L least most ↔ ∃ n, least ≤ n ∧ (∀ m ∈ most, n ≤ max least m) ∧ t ∈ L ^ n :=
  Iff.rfl

/-- Any number of words. -/
theorem repetition_zero {α : Type} (L : Language α) : repetition L 0 none = L∗ := by
  ext t
  rw [Language.kstar_eq_iSup_pow, Language.mem_iSup]
  exact exists_congr fun n => by simp

/-- One word or more. -/
theorem repetition_one {α : Type} (L : Language α) : repetition L 1 none = L * L∗ := by
  ext t
  rw [Language.kstar_eq_iSup_pow, Language.mul_iSup, Language.mem_iSup, mem_repetition]
  simp only [← pow_succ']
  constructor
  · rintro ⟨n, positive, -, power⟩
    exact ⟨n - 1, by rwa [Nat.sub_add_cancel positive]⟩
  · rintro ⟨n, power⟩
    exact ⟨n + 1, Nat.le_add_left 1 n, by simp, power⟩

/-- A word or none. -/
theorem repetition_optional {α : Type} (L : Language α) : repetition L 0 (some 1) = 1 + L := by
  ext t
  rw [Language.mem_add]
  constructor
  · rintro ⟨n, -, atMost, power⟩
    obtain rfl | rfl := Nat.le_one_iff_eq_zero_or_eq_one.mp (by simpa using atMost)
    · exact .inl (by rwa [pow_zero] at power)
    · exact .inr (by rwa [pow_one] at power)
  · rintro (empty | once)
    · exact ⟨0, Nat.zero_le _, by simp, by rwa [pow_zero]⟩
    · exact ⟨1, Nat.zero_le _, by simp, by rwa [pow_one]⟩

theorem append_mem_kstar {α : Type} {L : Language α} {t u : List α} (first : t ∈ L)
    (rest : u ∈ L∗) : t ++ u ∈ L∗ :=
  (mul_kstar_le_kstar : L * L∗ ≤ L∗) (Language.append_mem_mul first rest)

theorem mem_single {test : Char → Bool} : text ∈ single test ↔ ∃ c, test c = true ∧ text = [c] :=
  Iff.rfl

/-- A relation between the positions of a text leads from each of them exactly across the words of a
language that stand there. -/
def Spans (text : List Char) (R : Nat → Nat → Prop) (L : Language Char) : Prop :=
  ∀ front rest, front ++ rest = text → ∀ j,
    R front.length j ↔ ∃ t ∈ L, ∃ back, t ++ back = rest ∧ j = (front ++ t).length

theorem spans_one : Spans text (· = ·) 1 := by
  intro front rest eq j
  constructor
  · rintro rfl
    exact ⟨[], rfl, rest, rfl, by simp⟩
  · rintro ⟨t, empty, back, -, rfl⟩
    obtain rfl := (Language.mem_one t).mp empty
    simp

theorem Spans.mul (first : Spans text R L) (second : Spans text S M) :
    Spans text (fun i j => ∃ k, R i k ∧ S k j) (L * M) := by
  intro front rest eq j
  constructor
  · rintro ⟨k, across, onward⟩
    obtain ⟨t, inL, back, rfl, rfl⟩ := (first front rest eq k).mp across
    obtain ⟨u, inM, more, rfl, rfl⟩ :=
      (second (front ++ t) back (by rw [← eq, List.append_assoc]) j).mp onward
    exact ⟨t ++ u, Language.append_mem_mul inL inM, more, by simp, by simp⟩
  · rintro ⟨t, inside, back, rfl, rfl⟩
    obtain ⟨u, inL, v, inM, rfl⟩ := Language.mem_mul.mp inside
    refine ⟨(front ++ u).length, (first front _ eq _).mpr ⟨u, inL, v ++ back, by simp, rfl⟩, ?_⟩
    exact (second (front ++ u) (v ++ back) (by rw [← eq]; simp) _).mpr ⟨v, inM, back, rfl, by simp⟩

theorem Spans.add (left : Spans text R L) (right : Spans text S M) :
    Spans text (fun i j => R i j ∨ S i j) (L + M) := by
  intro front rest eq j
  refine (or_congr (left front rest eq j) (right front rest eq j)).trans ?_
  constructor
  · rintro (⟨t, inL, found⟩ | ⟨t, inM, found⟩)
    · exact ⟨t, .inl inL, found⟩
    · exact ⟨t, .inr inM, found⟩
  · rintro ⟨t, inL | inM, found⟩
    · exact .inl ⟨t, inL, found⟩
    · exact .inr ⟨t, inM, found⟩

theorem Spans.times (spans : Spans text R L) (n : Nat) : Spans text (Times R n) (L ^ n) := by
  induction n with
  | zero =>
    rw [pow_zero]
    exact spans_one
  | succ n ih =>
    rw [pow_succ']
    exact spans.mul ih

/-- One character is passed where one stands. -/
theorem spans_passes (test : Char → Bool) :
    Spans text (Subject.Passes ⟨text.toArray, ignoreCase⟩ test) (single test) := by
  rintro front rest rfl j
  have here : (front ++ rest).toArray[front.length]? = rest.head? := by
    rw [List.getElem?_toArray, List.getElem?_append_right (Nat.le_refl _), Nat.sub_self,
      List.head?_eq_getElem?]
  rw [Subject.Passes, here]
  constructor
  · rintro ⟨passed, rfl⟩
    cases rest with
    | nil => cases passed
    | cons c rest => exact ⟨[c], ⟨c, passed, rfl⟩, rest, rfl, by simp⟩
  · rintro ⟨-, ⟨c, passed, rfl⟩, back, rfl, rfl⟩
    exact ⟨passed, by simp⟩

/-- Matches of an expression without conditions on the place lead across the words of its
language. -/
theorem Expression.spans_matches (plain : e.isPlain = true) (ignoreCase : Bool) (text : List Char) :
    Spans text (e.Matches ⟨text.toArray, ignoreCase⟩) (e.language ignoreCase) := by
  induction e with
  | empty => exact spans_one
  | char c => exact spans_passes _
  | anyChar => exact spans_passes _
  | oneOf complement items => exact spans_passes _
  | group name inside ih => exact ih plain
  | seq first second ihFirst ihSecond =>
    obtain ⟨plainFirst, plainSecond⟩ := Bool.and_eq_true_iff.mp plain
    exact (ihFirst plainFirst).mul (ihSecond plainSecond)
  | alt left right ihLeft ihRight =>
    obtain ⟨plainLeft, plainRight⟩ := Bool.and_eq_true_iff.mp plain
    exact (ihLeft plainLeft).add (ihRight plainRight)
  | repeated inside least most ih =>
    intro front rest eq j
    have count (n : Nat) := (ih plain).times n front rest eq j
    simp only [Matches, language, mem_repetition, count]
    constructor
    · rintro ⟨n, atLeast, atMost, t, power, found⟩
      exact ⟨t, ⟨n, atLeast, atMost, power⟩, found⟩
    · rintro ⟨t, ⟨n, atLeast, atMost, power⟩, found⟩
      exact ⟨n, atLeast, atMost, t, power, found⟩
  | textStart | textEnd | textLimit | wordEdge | lookahead => cases plain

/-- The matcher accepts exactly the words of the language. -/
theorem Expression.matchesAll_iff_mem_language (plain : e.isPlain = true) :
    e.matchesAll ignoreCase text = true ↔ text ∈ e.language ignoreCase := by
  have spans := e.spans_matches plain ignoreCase text [] text rfl text.length
  rw [matchesAll_iff, ← List.length_nil, spans]
  constructor
  · rintro ⟨t, inside, back, rfl, whole⟩
    obtain rfl : back = [] := by simpa using whole
    rwa [List.append_nil]
  · intro inside
    exact ⟨text, inside, [], List.append_nil _, rfl⟩

end QueryGate.Pattern
