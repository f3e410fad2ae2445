/-!
# Command-line arguments

Options and positional arguments may stand in any order. A long option takes its value after an
equality sign or as the next argument, a short one directly after its letter or as the next
argument; several short flags share one hyphen. Two hyphens end the options, and a single one is a
positional argument.

## Main definitions

* `Flag` — an option of a command, with its spellings
* `Parsed` — the options and positional arguments that were given
* `parse` — reads the arguments of a command; nothing if they are not in order
-/

namespace QueryGate.CommandLine

/-- An option of a command. -/
structure Flag where
  /-- The word after two hyphens. -/
  long : List Char
  /-- The letter after one hyphen, if the option has one. -/
  short : Option Char := none
  takesValue : Bool := false
  deriving Repr, DecidableEq

/-- What was given on a command line, each part in its order. -/
structure Parsed where
  /-- The options by their long names, with the value of each that takes one. -/
  flags : List (List Char × List Char) := []
  positional : List (List Char) := []
  deriving Repr, DecidableEq

namespace Parsed

/-- Whether an option was given. -/
def has (p : Parsed) (long : String) : Bool :=
  p.flags.any fun flag => flag.1 == long.toList

/-- All values given for an option. -/
def values (p : Parsed) (long : String) : List (List Char) :=
  p.flags.filterMap fun flag => if flag.1 == long.toList then some flag.2 else none

/-- The same with a positional argument in front. -/
def withPositional (argument : List Char) (p : Parsed) : Parsed :=
  { p with positional := argument :: p.positional }

end Parsed

/-- What an argument that begins with a hyphen gives: some flags, and possibly an option that still
needs its value from the next argument. -/
structure Given where
  flags : List (List Char × List Char) := []
  pending : Option (List Char) := none

/-- Reads letters after a single hyphen. -/
def readShort (known : List Flag) : List Char → Option Given
  | [] => some {}
  | letter :: rest => do
    let flag ← known.find? fun flag => flag.short == some letter
    if flag.takesValue then
      if rest.isEmpty then return { pending := some flag.long }
      else return { flags := [(flag.long, rest)] }
    else
      let more ← readShort known rest
      return { more with flags := (flag.long, []) :: more.flags }

/-- Reads a word after two hyphens. -/
def readLong (known : List Flag) (word : List Char) : Option Given := do
  let name := word.takeWhile (· != '=')
  let flag ← known.find? fun flag => flag.long == name
  match flag.takesValue, word.dropWhile (· != '=') with
  | true, _ :: value => return { flags := [(flag.long, value)] }
  | true, [] => return { pending := some flag.long }
  | false, [] => return { flags := [(flag.long, [])] }
  | false, _ :: _ => none

/-- Reads an argument as options, if it is to be read so. -/
def readFlags (known : List Flag) : List Char → Option (Option Given)
  | '-' :: '-' :: word => (readLong known word).map some
  | '-' :: letter :: rest => (readShort known (letter :: rest)).map some
  | _ => some none

/-- Puts options in front of what follows. -/
def Parsed.withGiven (flags : List (List Char × List Char)) (p : Parsed) : Parsed :=
  { p with flags := flags ++ p.flags }

/-- Reads the arguments of a command with the given options. Nothing comes out if an option is
unknown, lacks its value, or has one that it does not take. -/
def parse (known : List Flag) : List (List Char) → Option Parsed
  | [] => some {}
  | argument :: rest =>
    if argument == ['-', '-'] then some { positional := rest }
    else
      match readFlags known argument with
      | none => none
      | some none => (parse known rest).map (·.withPositional argument)
      | some (some given) =>
        match given.pending, rest with
        | none, rest => (parse known rest).map (·.withGiven given.flags)
        | some _, [] => none
        | some long, value :: rest =>
          (parse known rest).map (·.withGiven (given.flags ++ [(long, value)]))

end QueryGate.CommandLine
