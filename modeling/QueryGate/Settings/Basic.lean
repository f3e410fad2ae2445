import QueryGate.Gate.Builder
import QueryGate.Json
import QueryGate.Settings.Variables
import QueryGate.Settings.Written

/-!
# Settings

A gate is set up from variables of the environment, or of a file that stands in for it; the
environment comes first. Lists are written in JSON, where null counts as not set. A list that cannot
be read is reported before any value that is wrong.

## Main definitions

* `Settings` — the settings with their default values
* `Settings.load` — the settings that some variables make
* `Settings.gate` — the gate set up from settings
-/

namespace QueryGate

/-- What can be set from outside. -/
structure Settings where
  whitelistEnabled : Bool := true
  /-- Patterns added to the default ones. -/
  whitelistPatterns : List (List Char) := []
  blockedTables : List (List Char) := []
  /-- The greatest length of a query; queries beyond it are not looked at. -/
  maxQueryLength : Option Int := some 20000
  verbose : Bool := false
  deriving Repr, DecidableEq

namespace Settings

/-- The list variable of the given name, decoded in each source; the first source that sets it
wins. -/
def listVariable (sources : List Variables) (name : String) : Except Failure (Option Value) := do
  let found ← sources.mapM fun vars =>
    match vars.find? name with
    | none => .ok none
    | some text =>
      match Json.read? text with
      | none => .error Failure.unreadableSetting
      | some .null => .ok none
      | some value => .ok (some value)
  return found.findSome? id

/-- The texts of a list of texts. -/
def texts? : Value → Option (List (List Char))
  | .list elements => elements.mapM fun
    | .text text => some text
    | _ => none
  | _ => none

/-- A setting read in the given way, with its default where it is not set. -/
def readOr {α β : Type} (default : β) (read : α → Option β) : Option α → Except Failure β
  | none => .ok default
  | some written =>
    match read written with
    | some value => .ok value
    | none => .error .invalidField

/-- The settings that variables make; the first source wins over the later ones. -/
def load (sources : List Variables) : Except Failure Settings := do
  let scalar (name : String) : Option (List Char) := sources.findSome? (·.find? name)
  -- Both lists are decoded before any value is judged.
  let patterns ← listVariable sources "SQLGATE_WHITELIST_PATTERNS"
  let tables ← listVariable sources "SQLGATE_BLOCKED_TABLES"
  let standard : Settings := {}
  return {
    whitelistEnabled :=
      ← readOr standard.whitelistEnabled readBool? (scalar "SQLGATE_WHITELIST_ENABLED")
    whitelistPatterns := ← readOr standard.whitelistPatterns texts? patterns
    blockedTables := ← readOr standard.blockedTables texts? tables
    maxQueryLength :=
      ← readOr standard.maxQueryLength (readInt? · |>.map some) (scalar "SQLGATE_MAX_QUERY_LENGTH")
    verbose := ← readOr standard.verbose readBool? (scalar "SQLGATE_VERBOSE") }

/-- Collects what settings say in a draft; the configured patterns come after the default ones. -/
def draft (s : Settings) : Action Gate.Draft Unit := do
  Gate.Draft.setWhitelist (.bool s.whitelistEnabled)
  Gate.Draft.blockTables (.items (s.blockedTables.map .text))
  Gate.Draft.setLimit (s.maxQueryLength.elim .unlimited .whole)
  s.whitelistPatterns.forM fun source => Gate.Draft.addPattern (.value (.text source))

/-- The gate set up from settings. -/
def gate [Pattern.Engine] (s : Settings) : Except Failure Gate :=
  ((do s.draft; Gate.Draft.build).run.run {}).1

end Settings

end QueryGate
