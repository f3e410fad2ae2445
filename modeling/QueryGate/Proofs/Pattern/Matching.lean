import Mathlib.Logic.Relation
import Mathlib.Order.Basic
import Mathlib.Order.Nat
import Mathlib.Tactic.Tauto
import QueryGate.Pattern.Matching

/-!
# What the matcher computes

Whether an expression matches between two positions is said without any search: a sequence matches
from one position to another if there is a position in between, a repetition if there is a chain of
them. The matcher follows ascending lists of positions through the expression, and it arrives
exactly where a match can end. In particular the bound on the steps of an unlimited repetition is
never felt.

## Main definitions

* `Expression.Matches` — an expression matches from one position to another
* `IsPlaces` — an ascending list of positions of a text
* `Follows` — a step on lists of positions that takes each along a relation

## Main results

* `mem_reach` — repeated steps forward arrive wherever a chain of them leads
* `Expression.follows_ends` — the matcher follows the matches of every expression
* `Expression.matchesAll_iff` — the verdict on a whole text
-/

namespace QueryGate.Pattern

open Relation

variable {s : Subject} {size n i j : Nat} {is js : List Nat} {R S : Nat → Nat → Prop}
  {f g : List Nat → List Nat}

/-! ### Matches between positions -/

/-- A relation followed exactly `n` times. -/
def Times (R : Nat → Nat → Prop) : Nat → Nat → Nat → Prop
  | 0, i, j => i = j
  | n + 1, i, j => ∃ k, R i k ∧ Times R n k j

/-- One character that satisfies a condition stands between two positions. -/
def Subject.Passes (s : Subject) (test : Char → Bool) (i j : Nat) : Prop :=
  s.text[i]?.any test = true ∧ j = i + 1

/-- An expression matches from one position to another. -/
def Expression.Matches (s : Subject) : Expression → Nat → Nat → Prop
  | .empty, i, j => i = j
  | .char c, i, j => s.Passes (s.sameChar c) i j
  | .anyChar, i, j => s.Passes (· != '\n') i j
  | .oneOf complement items, i, j => s.Passes (fun c => s.inClass items c != complement) i j
  | .textStart, i, j => i = 0 ∧ i = j
  | .textEnd, i, j =>
    (i = s.text.size ∨ i + 1 = s.text.size ∧ s.text[i]? = some '\n') ∧ i = j
  | .textLimit, i, j => i = s.text.size ∧ i = j
  | .wordEdge complement, i, j =>
    (s.text.isEmpty = false ∧ s.isWordEdge i ≠ complement) ∧ i = j
  | .group _ inside, i, j => inside.Matches s i j
  | .seq first second, i, j => ∃ k, first.Matches s i k ∧ second.Matches s k j
  | .alt left right, i, j => left.Matches s i j ∨ right.Matches s i j
  | .repeated inside least most, i, j =>
    ∃ n, least ≤ n ∧ (∀ m ∈ most, n ≤ max least m) ∧ Times (inside.Matches s) n i j
  | .lookahead complement inside, i, j =>
    ((∃ k, inside.Matches s i k) ↔ complement = false) ∧ i = j

theorem times_add_iff {m : Nat} : Times R (m + n) i j ↔ ∃ k, Times R m i k ∧ Times R n k j := by
  induction m generalizing i with
  | zero =>
    rw [Nat.zero_add]
    constructor
    · intro times
      exact ⟨i, rfl, times⟩
    · rintro ⟨k, rfl, times⟩
      exact times
  | succ m ih =>
    rw [Nat.add_right_comm]
    constructor
    · rintro ⟨k, step, rest⟩
      obtain ⟨l, front, back⟩ := ih.mp rest
      exact ⟨l, ⟨k, step, front⟩, back⟩
    · rintro ⟨l, ⟨k, step, front⟩, back⟩
      exact ⟨k, step, ih.mpr ⟨l, front, back⟩⟩

theorem exists_times_iff : (∃ n, Times R n i j) ↔ ReflTransGen R i j := by
  constructor
  · rintro ⟨n, times⟩
    induction n generalizing i with
    | zero => exact times ▸ .refl
    | succ n ih =>
      obtain ⟨k, step, rest⟩ := times
      exact (ih rest).head step
  · intro chain
    induction chain using ReflTransGen.head_induction_on with
    | refl => exact ⟨0, rfl⟩
    | head step _ ih =>
      obtain ⟨n, rest⟩ := ih
      exact ⟨n + 1, _, step, rest⟩

/-- A chain of steps forward leads forward. -/
theorem le_of_reflTransGen (forward : ∀ {i j}, R i j → i ≤ j) (chain : ReflTransGen R i j) :
    i ≤ j := by
  induction chain with
  | refl => exact Nat.le_refl i
  | tail _ step ih => exact ih.trans (forward step)

/-- A match never ends before it begins. -/
theorem Expression.Matches.le {e : Expression} (matched : e.Matches s i j) : i ≤ j := by
  induction e generalizing i j with
  | empty => exact Nat.le_of_eq matched
  | char | anyChar | oneOf =>
    have next : j = i + 1 := matched.2
    omega
  | textStart | textEnd | textLimit | wordEdge | lookahead => exact Nat.le_of_eq matched.2
  | group _ inside ih => exact ih matched
  | seq first second ihFirst ihSecond =>
    obtain ⟨k, front, back⟩ := matched
    exact (ihFirst front).trans (ihSecond back)
  | alt left right ihLeft ihRight => exact matched.elim ihLeft ihRight
  | repeated inside least most ih =>
    obtain ⟨n, -, -, times⟩ := matched
    exact le_of_reflTransGen ih (exists_times_iff.mp ⟨n, times⟩)

/-- A number of steps without an upper bound: the least number, and a chain from there. -/
theorem exists_times_iff_of_least {least : Nat} :
    (∃ n, least ≤ n ∧ Times R n i j) ↔ ∃ k, Times R least i k ∧ ReflTransGen R k j := by
  constructor
  · rintro ⟨n, atLeast, times⟩
    obtain ⟨m, rfl⟩ := Nat.exists_eq_add_of_le atLeast
    obtain ⟨k, front, back⟩ := times_add_iff.mp times
    exact ⟨k, front, exists_times_iff.mp ⟨m, back⟩⟩
  · rintro ⟨k, front, back⟩
    obtain ⟨m, times⟩ := exists_times_iff.mpr back
    exact ⟨least + m, Nat.le_add_right least m, times_add_iff.mpr ⟨k, front, times⟩⟩

/-- A number of steps with an upper bound: the least number, and what is left of the bound. -/
theorem exists_times_iff_of_most {least most : Nat} :
    (∃ n, least ≤ n ∧ n ≤ max least most ∧ Times R n i j) ↔
      ∃ k, Times R least i k ∧ ∃ m ≤ most - least, Times R m k j := by
  constructor
  · rintro ⟨n, atLeast, atMost, times⟩
    obtain ⟨m, rfl⟩ := Nat.exists_eq_add_of_le atLeast
    obtain ⟨k, front, back⟩ := times_add_iff.mp times
    exact ⟨k, front, m, by omega, back⟩
  · rintro ⟨k, front, m, le, back⟩
    exact ⟨least + m, by omega, by omega, times_add_iff.mpr ⟨k, front, back⟩⟩

/-! ### Lists of positions -/

/-- An ascending list of positions of a text. -/
structure IsPlaces (size : Nat) (is : List Nat) : Prop where
  ascending : is.Pairwise (· < ·)
  bounded : ∀ i ∈ is, i ≤ size

theorem IsPlaces.filter (places : IsPlaces size is) (p : Nat → Bool) :
    IsPlaces size (is.filter p) where
  ascending := places.ascending.filter p
  bounded i member := places.bounded i (List.mem_filter.mp member).1

theorem isPlaces_singleton (le : i ≤ size) : IsPlaces size [i] where
  ascending := List.pairwise_singleton _ i
  bounded := by simpa using le

@[simp] theorem mem_union : n ∈ union is js ↔ n ∈ is ∨ n ∈ js := by
  fun_induction union is js with
  | case1 js => simp
  | case2 is nonempty => simp
  | case3 i is j js before ih => simp [ih, or_assoc]
  | case4 i is j js notBefore after ih =>
    rw [List.mem_cons, ih, List.mem_cons, List.mem_cons]
    tauto
  | case5 i is j js notBefore notAfter ih =>
    obtain rfl : i = j := by omega
    rw [List.mem_cons, ih, List.mem_cons, List.mem_cons]
    tauto

theorem IsPlaces.union (places : IsPlaces size is) (others : IsPlaces size js) :
    IsPlaces size (union is js) where
  ascending := by
    obtain ⟨left, -⟩ := places
    obtain ⟨right, -⟩ := others
    -- The lesser of the two first places goes in front.
    fun_induction Pattern.union is js with
    | case1 js => exact right
    | case2 is nonempty => exact left
    | case3 i is j js before ih =>
      obtain ⟨first, tail⟩ := List.pairwise_cons.mp left
      refine List.pairwise_cons.mpr ⟨fun k member => ?_, ih tail right⟩
      obtain inLeft | inRight := mem_union.mp member
      · exact first k inLeft
      · obtain rfl | later := List.mem_cons.mp inRight
        · exact before
        · exact before.trans ((List.pairwise_cons.mp right).1 k later)
    | case4 i is j js notBefore after ih =>
      obtain ⟨first, tail⟩ := List.pairwise_cons.mp right
      refine List.pairwise_cons.mpr ⟨fun k member => ?_, ih left tail⟩
      obtain inLeft | inRight := mem_union.mp member
      · obtain rfl | later := List.mem_cons.mp inLeft
        · exact after
        · exact after.trans ((List.pairwise_cons.mp left).1 k later)
      · exact first k inRight
    | case5 i is j js notBefore notAfter ih =>
      obtain rfl : i = j := by omega
      obtain ⟨first, tail⟩ := List.pairwise_cons.mp left
      obtain ⟨firstRight, tailRight⟩ := List.pairwise_cons.mp right
      refine List.pairwise_cons.mpr ⟨fun k member => ?_, ih tail tailRight⟩
      exact (mem_union.mp member).elim (first k) (firstRight k)
  bounded i member := (mem_union.mp member).elim (places.bounded i) (others.bounded i)

/-! ### Following a relation -/

/-- A step on lists of positions that arrives exactly where a relation leads from one of them. -/
structure Follows (size : Nat) (f : List Nat → List Nat) (R : Nat → Nat → Prop) : Prop where
  places : ∀ {is}, IsPlaces size is → IsPlaces size (f is)
  mem_iff : ∀ {is j}, IsPlaces size is → (j ∈ f is ↔ ∃ i ∈ is, R i j)

theorem follows_id : Follows size (fun is => is) (· = ·) where
  places := id
  mem_iff _ := by simp

theorem follows_filter (p : Nat → Bool) :
    Follows size (List.filter p) fun i j => p i = true ∧ i = j where
  places start := start.filter p
  mem_iff _ := by
    rw [List.mem_filter]
    constructor
    · rintro ⟨member, holds⟩
      exact ⟨_, member, holds, rfl⟩
    · rintro ⟨i, member, holds, rfl⟩
      exact ⟨member, holds⟩

theorem Follows.congr (follows : Follows size f R) (same : ∀ i j, i ≤ size → (R i j ↔ S i j)) :
    Follows size f S where
  places := follows.places
  mem_iff start := by
    rw [follows.mem_iff start]
    exact exists_congr fun i => and_congr_right fun member => same i _ (start.bounded i member)

theorem Follows.comp (follows : Follows size f R) (next : Follows size g S) :
    Follows size (fun is => g (f is)) fun i j => ∃ k, R i k ∧ S k j where
  places start := next.places (follows.places start)
  mem_iff start := by
    rw [next.mem_iff (follows.places start)]
    constructor
    · rintro ⟨k, member, back⟩
      obtain ⟨i, inside, front⟩ := (follows.mem_iff start).mp member
      exact ⟨i, inside, k, front, back⟩
    · rintro ⟨i, inside, k, front, back⟩
      exact ⟨k, (follows.mem_iff start).mpr ⟨i, inside, front⟩, back⟩

theorem Follows.union (follows : Follows size f R) (other : Follows size g S) :
    Follows size (fun is => union (f is) (g is)) fun i j => R i j ∨ S i j where
  places start := (follows.places start).union (other.places start)
  mem_iff start := by
    rw [mem_union, follows.mem_iff start, other.mem_iff start, ← exists_or]
    exact exists_congr fun i => and_or_left.symm

theorem Follows.stepTimes (follows : Follows size f R) (n : Nat) :
    Follows size (stepTimes f n) (Times R n) := by
  induction n with
  | zero => exact follows_id
  | succ n ih => exact follows.comp ih

theorem Follows.stepUpTo (follows : Follows size f R) (n : Nat) :
    Follows size (stepUpTo f n) fun i j => ∃ m ≤ n, Times R m i j := by
  induction n with
  | zero =>
    refine follows_id.congr fun i j _ => ?_
    simp [Times]
  | succ n ih =>
    -- Where no position is left, stopping early gives what going on would.
    have whole : Pattern.stepUpTo f (n + 1) =
        fun is => Pattern.union is (if is.isEmpty then [] else Pattern.stepUpTo f n (f is)) := by
      funext is
      cases is <;> simp [Pattern.stepUpTo, Pattern.union]
    have later : Follows size (fun is => if is.isEmpty then [] else Pattern.stepUpTo f n (f is))
        fun i j => ∃ k, R i k ∧ ∃ m ≤ n, Times R m k j := by
      refine ⟨fun {is} start => ?_, fun {is j} start => ?_⟩
      · cases is with
        | nil => exact start
        | cons i is => exact (follows.comp ih).places start
      · cases is with
        | nil => simp
        | cons i is => exact (follows.comp ih).mem_iff start
    rw [whole]
    refine (follows_id.union later).congr fun i j _ => ?_
    constructor
    · rintro (rfl | ⟨k, step, m, le, rest⟩)
      · exact ⟨0, Nat.zero_le _, rfl⟩
      · exact ⟨m + 1, Nat.succ_le_succ le, k, step, rest⟩
    · rintro ⟨m, le, times⟩
      cases m with
      | zero => exact .inl times
      | succ m =>
        obtain ⟨k, step, rest⟩ := times
        exact .inr ⟨k, step, m, Nat.le_of_succ_le_succ le, rest⟩

/-- A chain that leads away from a position leaves it for a later one. -/
theorem reflTransGen_iff_leaves (forward : ∀ {i j}, R i j → i ≤ j) :
    ReflTransGen R i j ↔ j = i ∨ ∃ k, R i k ∧ i < k ∧ ReflTransGen R k j := by
  constructor
  · intro chain
    induction chain using ReflTransGen.head_induction_on with
    | refl => exact .inl rfl
    | @head a c step rest ih =>
      obtain rfl | away := (forward step).eq_or_lt
      · exact ih
      · exact .inr ⟨c, step, away, rest⟩
  · rintro (rfl | ⟨k, step, -, rest⟩)
    · exact .refl
    · exact rest.head step

/-- Repeated steps forward arrive wherever a chain of them leads. The leftmost position is done with
in each round, so there are at most as many rounds as positions. -/
theorem mem_reach {step : Nat → List Nat} (forward : ∀ {i j}, R i j → i ≤ j)
    (stepPlaces : ∀ i ≤ size, IsPlaces size (step i))
    (mem_step : ∀ i ≤ size, ∀ j, j ∈ step i ↔ R i j) {bound : Nat} (start : IsPlaces size is)
    (enough : ∀ i ∈ is, size < bound + i) :
    IsPlaces size (reach step bound is) ∧
      ∀ j, j ∈ reach step bound is ↔ ∃ i ∈ is, ReflTransGen R i j := by
  induction bound generalizing is with
  | zero =>
    cases is with
    | nil => exact ⟨start, by simp [reach]⟩
    | cons i is =>
      have le := start.bounded i List.mem_cons_self
      have above := enough i List.mem_cons_self
      omega
  | succ bound ih =>
    cases is with
    | nil => exact ⟨start, by simp [reach]⟩
    | cons i is =>
      have le := start.bounded i List.mem_cons_self
      obtain ⟨first, tail⟩ := List.pairwise_cons.mp start.ascending
      have rest : IsPlaces size is := ⟨tail, fun k member => start.bounded k (.tail i member)⟩
      have next := rest.union ((stepPlaces i le).filter (i < ·))
      have mem_next {k : Nat} :
          k ∈ union is ((step i).filter (i < ·)) ↔ k ∈ is ∨ R i k ∧ i < k := by
        simp [mem_step i le]
      have later {k : Nat} (member : k ∈ union is ((step i).filter (i < ·))) : i < k :=
        (mem_next.mp member).elim (first k) And.right
      -- Whatever is left lies after the leftmost position, so one round less is enough for it.
      obtain ⟨places, mem_iff⟩ := ih next fun k member => by
        have above := enough i List.mem_cons_self
        have := later member
        omega
      refine ⟨⟨List.pairwise_cons.mpr ⟨fun j member => ?_, places.ascending⟩, ?_⟩, fun j => ?_⟩
      · obtain ⟨k, inNext, chain⟩ := (mem_iff j).mp member
        exact (later inNext).trans_le (le_of_reflTransGen forward chain)
      · exact List.forall_mem_cons.mpr ⟨le, places.bounded⟩
      · rw [reach, List.mem_cons, mem_iff]
        constructor
        · rintro (rfl | ⟨k, inNext, chain⟩)
          · exact ⟨j, List.mem_cons_self, .refl⟩
          · obtain member | ⟨leaves, -⟩ := mem_next.mp inNext
            · exact ⟨k, .tail i member, chain⟩
            · exact ⟨i, List.mem_cons_self, chain.head leaves⟩
        · rintro ⟨k, member, chain⟩
          obtain rfl | inside := List.mem_cons.mp member
          · obtain here | ⟨l, leaves, away, onward⟩ := (reflTransGen_iff_leaves forward).mp chain
            · exact .inl here
            · exact .inr ⟨l, mem_next.mpr (.inr ⟨leaves, away⟩), onward⟩
          · exact .inr ⟨k, mem_next.mpr (.inl inside), chain⟩

theorem follows_reach {step : Nat → List Nat} (forward : ∀ {i j}, R i j → i ≤ j)
    (stepPlaces : ∀ i ≤ size, IsPlaces size (step i))
    (mem_step : ∀ i ≤ size, ∀ j, j ∈ step i ↔ R i j) :
    Follows size (reach step (size + 1)) (ReflTransGen R) where
  places start := (mem_reach forward stepPlaces mem_step start fun i _ => by omega).1
  mem_iff start := (mem_reach forward stepPlaces mem_step start fun i _ => by omega).2 _

theorem Subject.follows_advance (s : Subject) (test : Char → Bool) :
    Follows s.text.size (s.advance test) (s.Passes test) where
  places start := by
    refine ⟨List.Pairwise.map _ (fun i j lt => Nat.succ_lt_succ lt) (start.filter _).ascending,
      fun j member => ?_⟩
    obtain ⟨i, passed, rfl⟩ := List.mem_map.mp member
    -- A character stands at the position, so the text does not end there.
    by_contra beyond
    have absent : s.text[i]? = none := Array.getElem?_eq_none (by omega)
    simpa [absent] using (List.mem_filter.mp passed).2
  mem_iff start := by
    rw [Subject.advance, List.mem_map]
    simp only [List.mem_filter, Subject.Passes, and_assoc, eq_comm]

/-- The matcher follows the matches of every expression. -/
theorem Expression.follows_ends (s : Subject) (e : Expression) :
    Follows s.text.size (e.ends s) (e.Matches s) := by
  induction e with
  | empty => exact follows_id
  | char c => exact s.follows_advance _
  | anyChar => exact s.follows_advance _
  | oneOf complement items => exact s.follows_advance _
  | textStart => exact (follows_filter _).congr fun i j _ => by simp [Matches]
  | textEnd => exact (follows_filter _).congr fun i j _ => by simp [Matches]
  | textLimit => exact (follows_filter _).congr fun i j _ => by simp [Matches]
  | wordEdge complement => exact (follows_filter _).congr fun i j _ => by simp [Matches]
  | group name inside ih => exact ih
  | seq first second ihFirst ihSecond => exact ihFirst.comp ihSecond
  | alt left right ihLeft ihRight => exact ihLeft.union ihRight
  | repeated inside least most ih =>
    cases most with
    | none =>
      -- One round for each position is enough, the end of the text included.
      have onward : Follows s.text.size (reach (fun i => inside.ends s [i]) (s.text.size + 1))
          (ReflTransGen (inside.Matches s)) := by
        refine follows_reach Matches.le (fun i le => ih.places (isPlaces_singleton le)) ?_
        intro i le j
        rw [ih.mem_iff (isPlaces_singleton le)]
        simp
      refine ((ih.stepTimes least).comp onward).congr fun i j _ => ?_
      rw [← exists_times_iff_of_least]
      simp [Matches]
    | some most =>
      refine ((ih.stepTimes least).comp (ih.stepUpTo (most - least))).congr fun i j _ => ?_
      rw [← exists_times_iff_of_most]
      simp [Matches]
  | lookahead complement inside ih =>
    refine (follows_filter _).congr fun i j le => and_congr_left fun _ => ?_
    have found : (inside.ends s [i]).isEmpty = false ↔ ∃ k, inside.Matches s i k := by
      rw [List.isEmpty_eq_false_iff_exists_mem]
      simp [ih.mem_iff (isPlaces_singleton le)]
    rw [← found]
    cases complement <;> cases (inside.ends s [i]).isEmpty <;> simp

/-- An expression matches a whole text exactly if it matches from its beginning to its end. -/
theorem Expression.matchesAll_iff {e : Expression} {ignoreCase : Bool} {text : List Char} :
    e.matchesAll ignoreCase text = true ↔ e.Matches ⟨text.toArray, ignoreCase⟩ 0 text.length := by
  rw [matchesAll, List.contains_iff_mem,
    (e.follows_ends ⟨text.toArray, ignoreCase⟩).mem_iff (isPlaces_singleton (Nat.zero_le _))]
  simp

end QueryGate.Pattern
