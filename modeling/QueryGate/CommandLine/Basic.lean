import QueryGate.CommandLine.Command
import QueryGate.CommandLine.FileTree
import QueryGate.CommandLine.Table
import QueryGate.Gate.Check
import QueryGate.Settings.Basic
import QueryGate.Text.LineEnds
import QueryGate.Text.Utf8

/-!
# The command line

Settings are read first, then the file that a request names, and then the gate is set up; the first
of these that fails ends the command. How arguments are read, where settings come from and how text
is shown is up to the surroundings of a command.

## Main definitions

* `Surroundings` — what a command finds around it
* `runCheck`, `runPatterns` — carry out a command
* `run` — carries out the command that some arguments stand for
-/

namespace QueryGate.CommandLine

/-- What a command finds around it. -/
structure Surroundings where
  /-- The command that arguments stand for, or else the outcome. -/
  command : List (List Char) → Except Outcome Command
  /-- The settings, if there are any. -/
  settings : Except Failure Settings
  /-- What the file at a path holds. -/
  read : List Char → Except AccessError FileContent
  terminal : Terminal

/-- The text of a file, if it is UTF-8. -/
def FileContent.chars? : FileContent → Option (List Char)
  | text chars => some chars
  | bytes content => Text.Utf8.decode? content

/-- The message about a file that cannot be read. -/
def accessMessage (error : AccessError) (path : List Char) : List Char :=
  "[Errno ".toList ++ Nat.toDigits 10 error.code ++ "] ".toList ++ error.wording ++ ": ".toList ++
    Text.quote path

/-- The query of a request: the content of its file, if it names one, or else its argument. -/
def queryOf (s : Surroundings) (request : CheckRequest) : Except Outcome (List Char) :=
  match request.file.map plainPath with
  | none =>
    match request.query with
    | some query => .ok query
    | none => .error (s.terminal.reportError "provide a query or --file".toList)
  | some path =>
    match s.read path with
    | .error error => .error (s.terminal.reportError (accessMessage error path))
    | .ok content =>
      match content.chars? with
      | some chars => .ok (Text.unifyLineEnds chars)
      | none => .error (.failed .undecodableFile)

/-- The gate for a request: that of the settings, with the patterns of the request after those
configured, and without a whitelist if the request says so. -/
def gateFor [Pattern.Engine] (settings : Settings) (skipWhitelist : Bool)
    (patterns : List (List Char)) : Except Failure Gate := do
  let settings :=
    if skipWhitelist then { settings with whitelistEnabled := false } else settings
  let gate ← settings.gate
  Action.on (patterns.forM fun source => Gate.addPattern (.value (.text source))) gate

/-- The outcome for a verdict. -/
def verdictOutcome (t : Terminal) : Gate.Verdict → Outcome
  | .approved => t.report 0 ["[green]APPROVED[/green]".toList]
  | .rejected r =>
    t.report 1 ["[red]REJECTED[/red] (".toList ++ r.kind.name ++ [')'],
      "Reason: ".toList ++ t.escape r.reason]

/-- Makes a failure the outcome. -/
def orFailed {α : Type} : Except Failure α → Except Outcome α
  | .ok a => .ok a
  | .error failure => .error (.failed failure)

/-- Carries out the command `check`. -/
def runCheck [Pattern.Engine] (s : Surroundings) (request : CheckRequest) :
    Except Outcome Outcome := do
  -- The order decides which of several failures is reported.
  let settings ← orFailed s.settings
  let query ← queryOf s request
  let gate ← orFailed (gateFor settings request.skipWhitelist request.patterns)
  return verdictOutcome s.terminal (← orFailed (gate.verdict (.text query)))

/-- Carries out the command `patterns`. -/
def runPatterns [Pattern.Engine] (s : Surroundings) (customOnly : Bool) :
    Except Outcome Outcome := do
  let settings ← orFailed s.settings
  let gate ← orFailed settings.gate
  let all := gate.patterns.map Pattern.text
  let listed :=
    if customOnly then all.drop (all.length - settings.whitelistPatterns.length) else all
  let state := if gate.whitelistEnabled then "enabled" else "disabled"
  let footer := "[dim]Whitelist ".toList ++ state.toList ++ "; ".toList ++
    Nat.toDigits 10 all.length ++ " patterns total[/dim]".toList
  match s.terminal.shown? footer with
  | some shown => return .listed (tableRows s.terminal listed) shown
  | none => .error (.failed .badMarkup)

/-- Carries out the command that some arguments stand for. -/
def run [Pattern.Engine] (s : Surroundings) (arguments : List (List Char)) : Outcome :=
  let result := do
    match ← s.command arguments with
    | .check request => runCheck s request
    | .patterns customOnly => runPatterns s customOnly
  match result with
  | .ok outcome | .error outcome => outcome

end QueryGate.CommandLine
