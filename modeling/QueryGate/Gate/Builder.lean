import QueryGate.Gate.Basic

/-!
# Building a gate step by step

A draft collects the arguments of a gate. Patterns and table names are looked at only when the gate
is built, but a list of them is gone through at once; so a draft can be built from again after more
steps, and a gate that was built is not touched by them.

## Main definitions

* `Draft` — the arguments collected so far
* `Draft.usePatterns`, `Draft.addPattern`, `Draft.setWhitelist`, `Draft.blockTables`,
  `Draft.setLimit` — the steps
* `Draft.build` — the gate made from a draft
-/

namespace QueryGate.Gate

/-- The arguments of a gate to be built. -/
structure Draft where
  /-- The patterns in place of the default ones, if any were given. -/
  patterns : Option (List PatternArgument) := none
  /-- The patterns added at the end. -/
  added : List PatternArgument := []
  whitelist : Value := .bool true
  blockedTables : List Value := []
  limit : Limit := .unlimited

namespace Draft

/-- Puts a collection of patterns in place of the default ones. -/
def usePatterns (patterns : PatternCollection) : Action Draft Unit := do
  let elements ← patterns.elements .value
  modify fun d => { d with patterns := some elements }

/-- Adds a pattern at the end of the whitelist. -/
def addPattern (pattern : PatternArgument) : Action Draft Unit :=
  modify fun d => { d with added := d.added ++ [pattern] }

/-- Switches the whitelist on or off. -/
def setWhitelist (enabled : Value) : Action Draft Unit :=
  modify fun d => { d with whitelist := enabled }

/-- Adds names to the blocked tables, each as it comes. -/
def blockTables (tables : TableCollection) : Action Draft Unit := do
  let (names, ended) := tables.yield id
  modify fun d => { d with blockedTables := d.blockedTables ++ names }
  -- The names that came before a failure stay.
  ended

/-- Sets the greatest length of a query. -/
def setLimit (limit : Limit) : Action Draft Unit :=
  modify fun d => { d with limit := limit }

/-- The patterns that a draft starts with: those put in place of the default ones, or else the
default ones in their written form. -/
def basePatterns (d : Draft) : List PatternArgument :=
  d.patterns.getD (Pattern.Default.sources.map fun source => .value (.text source))

/-- The arguments that a draft has collected. -/
def spec (d : Draft) : GateSpec where
  patterns := .items (d.basePatterns ++ d.added)
  whitelist := d.whitelist
  blockedTables := .items d.blockedTables
  limit := d.limit

/-- Makes a gate from a draft. -/
def build [Pattern.Engine] : Action Draft Gate := do
  make (← get).spec

end Draft

end QueryGate.Gate
