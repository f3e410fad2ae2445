import QueryGate.Action
import QueryGate.Gate.Limit
import QueryGate.Pattern.Default
import QueryGate.Text.Upper

/-!
# Gates

A gate holds what decides over a query: the patterns of the whitelist, whether the whitelist is in
use, the blocked tables, and the length limit. It is made from arguments that can be anything, so
making one can fail; patterns are looked at first, in their order, and then the tables. A list that
is handed over is gone through one by one, and can fail on the way.

## Main definitions

* `Collection` — what can be given as a list
* `PatternArgument` — what can be given as a pattern
* `GateSpec` — the arguments from which a gate is made
* `Gate` — a gate ready for use
* `Gate.make` — the gate made from some arguments
* `Gate.addPattern` — adds a pattern to a gate
-/

namespace QueryGate

/-- What can be given as a list of things of type `α`. -/
inductive Collection (α : Type) where
  /-- A plain value, which stands for what it yields. -/
  | value (v : Value)
  | items (elements : List α)
  /-- An object that yields some things and then fails with an error of its own. -/
  | interrupted (elements : List α) (errorName : List Char)

namespace Collection

variable {α : Type}

/-- What a collection yields when it is gone through one by one, and how this ends; `embed` makes a
thing of a plain value. -/
def yield (embed : Value → α) : Collection α → List α × Except Failure Unit
  | value v =>
    match v.elements? with
    | some elements => (elements.map embed, .ok ())
    | none => ([], .error .notIterable)
  | items elements => (elements, .ok ())
  | interrupted elements errorName => (elements, .error (.interrupted errorName))

/-- All things that a collection yields. -/
def elements (embed : Value → α) (c : Collection α) : Except Failure (List α) := do
  let (elements, ended) := c.yield embed
  ended
  return elements

/-- What a function makes of each thing that a collection yields, as it comes. -/
def mapM {β : Type} (embed : Value → α) (f : α → Except Failure β) (c : Collection α) :
    Except Failure (List β) := do
  let (elements, ended) := c.yield embed
  let results ← elements.mapM f
  ended
  return results

end Collection

/-- What can be given as a pattern. -/
inductive PatternArgument where
  /-- A plain value; a text is a regular expression. -/
  | value (v : Value)
  /-- A pattern that is ready for use. -/
  | matcher (pattern : Pattern)
  /-- An object that is no matcher, known by the name of its type. -/
  | foreign (typeName : List Char)

/-- The pattern that an argument stands for; letters of a written one match in either case. -/
def PatternArgument.compile [Pattern.Engine] : PatternArgument → Except Failure Pattern
  | value (.text source) => (Pattern.compile source true).mapError .badExpression
  | value v => .error (.notAPattern v.typeName)
  | matcher pattern => .ok pattern
  | foreign typeName => .error (.notAPattern typeName)

/-- What can be given as a list of patterns. -/
abbrev PatternCollection := Collection PatternArgument

/-- What can be given as a list of table names. -/
abbrev TableCollection := Collection Value

/-- The arguments from which a gate is made. -/
structure GateSpec where
  /-- The patterns; null stands for the default patterns. -/
  patterns : PatternCollection := .value .null
  /-- Whether the whitelist is in use. -/
  whitelist : Value := .bool true
  /-- The names of blocked tables. -/
  blockedTables : TableCollection := .items []
  /-- The greatest length of a query. -/
  limit : Gate.Limit := .unlimited

/-- What decides over a query. -/
structure Gate where
  patterns : List Pattern
  /-- The value that switches the whitelist on or off, as it was given. -/
  whitelist : Value
  /-- The names of blocked tables, in upper case. -/
  blockedTables : List (List Char)
  limit : Gate.Limit

namespace Gate

/-- The patterns that a gate gets from its arguments. -/
def patternsOf [Pattern.Engine] : PatternCollection → Except Failure (List Pattern)
  | .value .null => .ok Pattern.Default.patterns
  | collection => collection.mapM .value PatternArgument.compile

/-- The upper-case form of a table name. Bytes have one too, but no word of a query is equal to it. -/
def tableName : Value → Except Failure (Option (List Char))
  | .text name => .ok (some (Text.upperText name))
  | .bytes _ => .ok none
  | _ => .error .notAName

/-- The upper-case forms of table names that a word can be equal to. -/
def tableNames (tables : TableCollection) : Except Failure (List (List Char)) :=
  return (← tables.mapM id tableName).filterMap id

/-- The gate made from some arguments. -/
def make [Pattern.Engine] (spec : GateSpec) : Except Failure Gate := do
  let patterns ← patternsOf spec.patterns
  let tables ← tableNames spec.blockedTables
  return ⟨patterns, spec.whitelist, tables, spec.limit⟩

/-- The gate made from no arguments: default patterns, whitelist on, nothing else blocked, and no
limit. -/
def standard : Gate :=
  ⟨Pattern.Default.patterns, .bool true, [], .unlimited⟩

/-- Whether the whitelist is in use. -/
def whitelistEnabled (g : Gate) : Bool :=
  g.whitelist.isTruthy

/-- Adds a pattern at the end of the whitelist of a gate. -/
def addPattern [Pattern.Engine] (pattern : PatternArgument) : Action Gate Unit := do
  let compiled ← pattern.compile
  modify fun g => { g with patterns := g.patterns ++ [compiled] }

/-- Whether some pattern allows a text. -/
def allows (g : Gate) (text : List Char) : Bool :=
  g.patterns.any (·.accepts text)

end Gate

end QueryGate
