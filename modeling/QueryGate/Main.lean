import QueryGate.CommandLine.Host

/-!
# The program

Reads the environment and the files that the arguments name, runs the command, and prints its
outcome.
-/

namespace QueryGate.CommandLine

/-- The names of the variables that settings are made from. -/
def variableNames : List String :=
  ["SQLGATE_WHITELIST_ENABLED", "SQLGATE_WHITELIST_PATTERNS", "SQLGATE_BLOCKED_TABLES",
   "SQLGATE_MAX_QUERY_LENGTH", "SQLGATE_VERBOSE"]

/-- The variables that the environment sets. -/
def readEnvironment : IO Settings.Variables :=
  variableNames.filterMapM fun name => do
    return (← IO.getEnv name).map fun value => (name.toList, some value.toList)

/-- The reason for which a file could not be read. Some errors carry their number with a minus
sign. -/
def accessErrorOf : IO.Error → AccessError
  | .inappropriateType _ code _ | .invalidArgument _ code _ =>
    (AccessError.ofCode? code.toInt32.toInt.natAbs).getD .missing
  | _ => .missing

/-- What the file at a path holds. -/
def readFile (path : List Char) : IO (Except AccessError FileContent) := do
  try
    return .ok (.bytes (← IO.FS.readBinFile (String.ofList path)).toList)
  catch error => return .error (accessErrorOf error)

/-- The paths that a command reads. -/
def pathsOf (arguments : List (List Char)) : List (List Char) :=
  match Command.ofArguments arguments with
  | .ok (.check request) => envFile :: (request.file.map plainPath).toList
  | _ => [envFile]

/-- Prints an outcome and gives the exit code. -/
def Outcome.report : Outcome → IO UInt32
  | printed exitCode lines => do
    for line in lines do
      IO.println (String.ofList line)
    return exitCode.toUInt32
  | listed rows footer => do
    IO.println "Whitelist Patterns"
    for (number, text) in rows do
      IO.println (String.ofList (number ++ ' ' :: text))
    IO.println ""
    IO.println (String.ofList footer)
    return 0
  | failed failure => do
    let message := (failure.message?.map String.ofList).getD "the settings cannot be used"
    IO.eprintln message
    return 1

end QueryGate.CommandLine

open QueryGate.CommandLine in
/-- Runs the command that the arguments stand for. -/
def main (arguments : List String) : IO UInt32 := do
  let arguments := arguments.map String.toList
  let files ← (pathsOf arguments).mapM fun path => do return (path, ← readFile path)
  let surroundings := Surroundings.onHost (← readEnvironment) fun path =>
    (files.lookup path).getD (.error .missing)
  let _ := QueryGate.Pattern.Engine.plain
  (run surroundings arguments).report
