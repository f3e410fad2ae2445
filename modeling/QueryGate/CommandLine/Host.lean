import QueryGate.CommandLine.Basic
import QueryGate.CommandLine.Markup
import QueryGate.Settings.EnvFile

/-!
# A host for commands

The surroundings of a command on an ordinary system: options in the usual notation, settings from
the environment and from a file that stands in for it, and a terminal without colours.

## Main definitions

* `envFile` — the name of the file that stands in for the environment
* `Surroundings.onHost` — the surroundings that an environment and some files make
-/

namespace QueryGate.CommandLine

/-- The name of the file that stands in for the environment. -/
def envFile : List Char := ".env".toList

/-- The settings of an environment, and of the file that stands in for it if there is such a file. -/
def settingsOnHost (environment : Settings.Variables)
    (read : List Char → Except AccessError FileContent) : Except Failure Settings :=
  match read envFile with
  | .ok content =>
    match content.chars? with
    | some chars => Settings.load [environment, Settings.EnvFile.load environment chars]
    | none => .error .undecodableFile
  | .error _ => Settings.load [environment]

/-- The surroundings that an environment and some files make. -/
def Surroundings.onHost (environment : Settings.Variables)
    (read : List Char → Except AccessError FileContent) : Surroundings where
  command := Command.ofArguments
  settings := settingsOnHost environment read
  read
  terminal := Markup.terminal

end QueryGate.CommandLine
