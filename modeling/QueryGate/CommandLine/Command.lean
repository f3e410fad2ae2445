import QueryGate.CommandLine.Arguments
import QueryGate.CommandLine.Outcome

/-!
# Commands

Two commands: `check` decides over a query, given as an argument or in a file, and `patterns` lists
the whitelist.

## Main definitions

* `CheckRequest` — what is asked of `check`
* `Command` — what a user asks for
* `Command.ofArguments` — the command that some arguments stand for
-/

namespace QueryGate.CommandLine

/-- What is asked of the command `check`. -/
structure CheckRequest where
  query : Option (List Char)
  file : Option (List Char)
  skipWhitelist : Bool
  patterns : List (List Char)
  deriving Repr, DecidableEq

/-- What a user asks for. -/
inductive Command where
  | check (request : CheckRequest)
  | patterns (customOnly : Bool)
  deriving Repr, DecidableEq

/-- The options of the command `check`. -/
def checkFlags : List Flag := [
  { long := "file".toList, short := some 'f', takesValue := true },
  { long := "no-whitelist".toList },
  { long := "pattern".toList, short := some 'p', takesValue := true },
  { long := "verbose".toList, short := some 'v' }]

/-- The options of the command `patterns`. -/
def patternsFlags : List Flag := [{ long := "custom-only".toList }]

/-- The request that the arguments of `check` stand for. The path of a file is looked at before the
number of arguments. -/
def checkRequest (arguments : List (List Char)) : Except Outcome CheckRequest := do
  let some parsed := parse checkFlags arguments | .error misused
  let file := (parsed.values "file").getLast?
  if file.any (·.contains '\x00') then .error (.failed .unusablePath)
  if 1 < parsed.positional.length then .error misused
  return {
    query := parsed.positional.head?
    file
    skipWhitelist := parsed.has "no-whitelist"
    patterns := parsed.values "pattern" }

/-- The request that the arguments of `patterns` stand for. -/
def patternsRequest (arguments : List (List Char)) : Except Outcome Bool :=
  match parse patternsFlags arguments with
  | some parsed =>
    if parsed.positional.isEmpty then .ok (parsed.has "custom-only") else .error misused
  | none => .error misused

/-- The command that some arguments stand for. -/
def Command.ofArguments (arguments : List (List Char)) : Except Outcome Command :=
  let arguments := if arguments.head? == some ['-', '-'] then arguments.drop 1 else arguments
  match arguments with
  | [] => .error misused
  | name :: rest =>
    if name == "check".toList then (checkRequest rest).map .check
    else if name == "patterns".toList then (patternsRequest rest).map .patterns
    else .error misused

end QueryGate.CommandLine
