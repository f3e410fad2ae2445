import QueryGate.Failure

/-!
# Outcomes of commands

What a command leaves behind: lines, a table of patterns, or the failure that ended it. Lines are
marked up, and the terminal decides what they look like.

## Main definitions

* `Terminal` — where marked-up text is shown
* `Outcome` — what a command prints, and its exit code
* `Terminal.report` — the outcome of some marked-up lines
* `misused` — the outcome of arguments that make no command
-/

namespace QueryGate.CommandLine

/-- Where marked-up text is shown. -/
structure Terminal where
  /-- A text written so that nothing in it is taken for a tag. -/
  escape : List Char → List Char
  /-- What is shown of a marked-up text; nothing if its tags are not in order. -/
  shown? : List Char → Option (List Char)

/-- What a command prints, and with which exit code it ends. -/
inductive Outcome where
  | printed (exitCode : Nat) (lines : List (List Char))
  /-- The rows of a table of numbered patterns, and the line below it. -/
  | listed (rows : List (List Char × List Char)) (footer : List Char)
  /-- The command was given up; its exit code is 1. -/
  | failed (failure : Failure)

/-- The outcome of arguments that make no command. -/
def misused : Outcome := .printed 2 []

namespace Terminal

/-- The outcome of marked-up lines, shown one after the other. -/
def report (t : Terminal) (exitCode : Nat) (lines : List (List Char)) : Outcome :=
  match lines.mapM t.shown? with
  | some shown => .printed exitCode shown
  | none => .failed .badMarkup

/-- The outcome of a command that cannot go on, with a message, which is taken as marked up. -/
def reportError (t : Terminal) (message : List Char) : Outcome :=
  t.report 2 ["[red]Error:[/red] ".toList ++ message]

end Terminal

end QueryGate.CommandLine
