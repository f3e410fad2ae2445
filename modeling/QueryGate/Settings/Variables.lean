import QueryGate.Text.CaseVariant

/-!
# Variables

Settings are read from variables, of the environment or of a file. A variable can be named without
being given a value; then it counts as not set.

## Main definitions

* `Variables` — names with their values, in the order in which the names first occurred
* `Variables.find?` — the value of a variable, case aside
* `Variables.put` — sets a variable
-/

namespace QueryGate.Settings

/-- Variables with their values, in the order in which they were first named. -/
abbrev Variables := List (List Char × Option (List Char))

namespace Variables

/-- The value of a variable. Case does not count in names; of several names that differ in case
only, the last one decides, also if it has no value. -/
def find? (vars : Variables) (name : String) : Option (List Char) :=
  (vars.reverse.find? fun entry => Text.lowerText entry.1 == Text.lowerText name.toList).bind
    Prod.snd

/-- Sets a variable; a name that is already there keeps its place. -/
def put (name : List Char) (value : Option (List Char)) : Variables → Variables
  | [] => [(name, value)]
  | entry :: rest =>
    if entry.1 == name then (name, value) :: rest else entry :: put name value rest

end Variables

end QueryGate.Settings
