import Mathlib.Data.List.Forall2
import QueryGate.Gate.Basic

/-!
# How a gate is made

A gate is made from arguments that can fail to be patterns or table names, and from lists that can
fail to yield them. Where nothing fails, the gate has what its arguments stand for, and nothing else.

## Main results

* `make_eq_ok_iff` — the gate that some arguments make
* `mapM_eq_ok_iff` — what a computation makes of the elements of a list, one for each
* `compile_text_of_read` — the pattern of an expression that is read
* `addPattern_eq_ok` — the gate with one more pattern
* `tableNames_append_texts` — more table names after those that a collection yields
-/

namespace QueryGate

/-- Of two computations in a row the second starts from what the first yields. -/
theorem bind_eq_ok_iff {α β : Type} {first : Except Failure α} {second : α → Except Failure β}
    {result : β} :
    (first >>= second) = .ok result ↔ ∃ a, first = .ok a ∧ second a = .ok result := by
  cases first with
  | error failure => simp [bind, Except.bind]
  | ok a => simp [bind, Except.bind]

theorem mapM_cons_eq_ok_iff {α β : Type} {f : α → Except Failure β} {a : α} {l : List α}
    {results : List β} :
    (a :: l).mapM f = .ok results ↔
      ∃ result others, f a = .ok result ∧ l.mapM f = .ok others ∧ results = result :: others := by
  rw [List.mapM_cons]
  simp [bind_eq_ok_iff, pure, Except.pure, eq_comm (b := results)]

/-- A computation yields something for a list if it does for each of its elements. -/
theorem mapM_eq_ok_iff {α β : Type} {f : α → Except Failure β} {l : List α} {results : List β} :
    l.mapM f = .ok results ↔ List.Forall₂ (fun a result => f a = .ok result) l results := by
  induction l generalizing results with
  | nil =>
    rw [List.forall₂_nil_left_iff, List.mapM_nil]
    exact ⟨fun same => (Except.ok.inj same).symm, fun same => congrArg Except.ok same.symm⟩
  | cons a l ih =>
    rw [mapM_cons_eq_ok_iff, List.forall₂_cons_left_iff]
    simp only [ih]

theorem exists_of_mem_mapM {α β : Type} {f : α → Except Failure β} {l : List α} {results : List β}
    (yields : l.mapM f = .ok results) {result : β} (member : result ∈ results) :
    ∃ a ∈ l, f a = .ok result := by
  have each := mapM_eq_ok_iff.mp yields
  clear yields
  induction each with
  | nil => cases member
  | cons here _ ih =>
    rcases List.mem_cons.mp member with rfl | later
    · exact ⟨_, List.mem_cons_self, here⟩
    · obtain ⟨a, inside, there⟩ := ih later
      exact ⟨a, List.mem_cons_of_mem _ inside, there⟩

/-! ### Collections -/

namespace Collection

variable {α β : Type} {embed : Value → α} {f : α → Except Failure β} {c : Collection α}
  {elements : List α}

theorem elements_eq_ok_iff : c.elements embed = .ok elements ↔ c.yield embed = (elements, .ok ()) := by
  rw [Collection.elements]
  obtain ⟨yielded, _ | _⟩ := c.yield embed
  · simp [bind, Except.bind]
  · simp [bind, Except.bind, pure, Except.pure]

theorem mapM_of_elements (yields : c.elements embed = .ok elements) :
    c.mapM embed f = elements.mapM f := by
  rw [Collection.mapM, elements_eq_ok_iff.mp yields]
  exact bind_pure (elements.mapM f)

theorem mapM_items (elements : List α) : (items elements).mapM embed f = elements.mapM f :=
  mapM_of_elements rfl

end Collection

/-! ### Gates -/

namespace Gate

open Text

/-- Names given as texts are added in upper case to those that a collection yields. -/
theorem tableNames_append_texts {collection : TableCollection} {listed : List Value}
    {tables : List (List Char)} (yields : collection.elements id = .ok listed)
    (read : tableNames collection = .ok tables) (names : List (List Char)) :
    tableNames (.items (listed ++ names.map .text)) = .ok (tables ++ names.map upperText) := by
  have texts : (names.map Value.text).mapM tableName = .ok (names.map (some ∘ upperText)) := by
    rw [List.mapM_map]
    exact List.mapM_pure
  rw [tableNames, Collection.mapM_of_elements yields] at read
  obtain ⟨found, named, same⟩ := bind_eq_ok_iff.mp read
  obtain rfl := Except.ok.inj same
  rw [tableNames, Collection.mapM_items, List.mapM_append, named, texts]
  simp [bind, Except.bind, pure, Except.pure, List.filterMap_map]

variable [Pattern.Engine]

theorem patternsOf_items (arguments : List PatternArgument) :
    patternsOf (.items arguments) = arguments.mapM PatternArgument.compile := by
  rw [patternsOf, Collection.mapM_items]
  exact fun null => nomatch null

/-- A written expression that is read stands for itself, with letters in either case. -/
theorem compile_text_of_read {source : List Char} {meaning : Pattern.Expression}
    (read : Pattern.readExpression source = .ok meaning) :
    PatternArgument.compile (.value (.text source)) = .ok (.expression source true meaning) := by
  rw [PatternArgument.compile, Pattern.compile, read]
  rfl

theorem make_eq_ok_iff {spec : GateSpec} {g : Gate} :
    make spec = .ok g ↔ patternsOf spec.patterns = .ok g.patterns ∧ g.whitelist = spec.whitelist ∧
      tableNames spec.blockedTables = .ok g.blockedTables ∧ g.limit = spec.limit := by
  obtain ⟨patterns, whitelist, tables, limit⟩ := g
  rw [make]
  simp only [bind_eq_ok_iff, pure, Except.pure, Except.ok.injEq, Gate.mk.injEq]
  constructor
  · rintro ⟨_, patterns, _, tables, rfl, rfl, rfl, rfl⟩
    exact ⟨patterns, rfl, tables, rfl⟩
  · rintro ⟨patterns, whitelist, tables, limit⟩
    exact ⟨_, patterns, _, tables, rfl, whitelist.symm, rfl, limit.symm⟩

/-- What stands for a pattern is added at the end. -/
theorem addPattern_eq_ok {g : Gate} {argument : PatternArgument} {p : Pattern}
    (compiled : argument.compile = .ok p) :
    (addPattern argument).on g = .ok { g with patterns := g.patterns ++ [p] } := by
  rw [addPattern, compiled]
  rfl

end Gate

end QueryGate
