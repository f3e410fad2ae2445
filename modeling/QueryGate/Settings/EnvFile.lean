import QueryGate.Settings.Interpolation
import QueryGate.Text.LineEnds
import QueryGate.Text.Spacing

/-!
# Files of variables

A file can stand in for environment variables. It holds statements of the form `NAME=value`, with an
optional `export` in front. A value in single or double quotes can run over several lines; an
unquoted one ends before a comment. A statement without an equality sign names a variable but gives
it no value. What is not of this form is skipped to the end of its line.

## Main definitions

* `EnvFile.Reading` — the outcome of reading a part of a text
* `EnvFile.statement` — reads a statement
* `EnvFile.assignments` — all statements of a file, in order
* `EnvFile.load` — the variables that a file makes
-/

namespace QueryGate.Settings.EnvFile

/-- The outcome of reading a part of a text: what was read and the text after it, or the text at
which reading stopped. -/
abbrev Reading (α : Type) := Except (List Char) (α × List Char)

/-- Whether a character ends a line. -/
def endsLine (c : Char) : Bool :=
  c == '\n' || c == '\r'

/-- Whether a character is white space within a line. -/
def isBlank (c : Char) : Bool :=
  Text.isSpace c && !endsLine c

/-- The characters that letters stand for after a backslash in double quotes. -/
def escapes : List (Char × Char) :=
  [('\\', '\\'), ('\x27', '\x27'), ('\x22', '\x22'), ('a', '\x07'), ('b', '\x08'), ('f', '\x0c'),
   ('n', '\n'), ('r', '\r'), ('t', '\t'), ('v', '\x0b')]

/-- The characters that can be escaped inside the given quote. In single quotes these are the quote
and the backslash. -/
def escapesIn (quote : Char) : List (Char × Char) :=
  if quote == '\x22' then escapes else escapes.take 2

/-- A text with the given escapes replaced. -/
def unescape (table : List (Char × Char)) : List Char → List Char
  | '\\' :: c :: rest =>
    match table.lookup c with
    | some d => d :: unescape table rest
    | none => '\\' :: unescape table (c :: rest)
  | c :: rest => c :: unescape table rest
  | [] => []

/-- The text before the first quote that no backslash precedes, and the text after it. -/
def untilQuote? (quote : Char) : List Char → Option (List Char × List Char)
  | '\\' :: c :: rest =>
    if c == quote then
      (untilQuote? quote rest).map fun (inside, after) => ('\\' :: c :: inside, after)
    else (untilQuote? quote (c :: rest)).map fun (inside, after) => ('\\' :: inside, after)
  | c :: rest =>
    if c == quote then some ([], rest)
    else (untilQuote? quote rest).map fun (inside, after) => (c :: inside, after)
  | [] => none

/-- The text before the last quote, and the text after it. -/
def untilLastQuote? (quote : Char) : List Char → Option (List Char × List Char)
  | [] => none
  | c :: rest =>
    match untilLastQuote? quote rest with
    | some (inside, after) => some (c :: inside, after)
    | none => if c == quote then some ([], rest) else none

/-- A quoted value after its opening quote. If a backslash precedes every quote, then the last one
closes the value all the same. -/
def quoted? (quote : Char) (text : List Char) : Option (List Char × List Char) :=
  ((untilQuote? quote text).or (untilLastQuote? quote text)).map fun (inside, after) =>
    (unescape (escapesIn quote) inside, after)

/-- The text before a comment, which begins with a number sign after white space. -/
def beforeComment : List Char → List Char
  | c :: '#' :: rest => if Text.isSpace c then [] else c :: beforeComment ('#' :: rest)
  | c :: rest => c :: beforeComment rest
  | [] => []

/-- The value written after an equality sign. -/
def value (text : List Char) : Reading (List Char) :=
  let line := text.takeWhile (!endsLine ·)
  match text with
  | [] => .ok ([], [])
  | c :: rest =>
    if c == '\x27' || c == '\x22' then
      match quoted? c rest with
      | some found => .ok found
      | none => .error text
    else .ok (Text.trimEnd (beforeComment line), text.drop line.length)

/-- A text without the word `export` in front. -/
def withoutExport (text : List Char) : List Char :=
  match text with
  | 'e' :: 'x' :: 'p' :: 'o' :: 'r' :: 't' :: c :: rest =>
    if isBlank c then rest.dropWhile isBlank else text
  | _ => text

/-- The name of a variable, in single quotes or without. A comment has no name. -/
def name (text : List Char) : Reading (Option (List Char)) :=
  match text with
  | '#' :: _ => .ok (none, text)
  | '\x27' :: more =>
    let inside := more.takeWhile (· != '\x27')
    match more.drop inside.length with
    | _ :: rest => if inside.isEmpty then .error text else .ok (some inside, rest)
    | [] => .error text
  | _ =>
    let inside := text.takeWhile fun c => c != '=' && c != '#' && !Text.isSpace c
    if inside.isEmpty then .error text else .ok (some inside, text.drop inside.length)

/-- The value of a statement after its name, if it has one. -/
def value? (text : List Char) : Reading (Option (List Char)) :=
  match text with
  | '=' :: rest => (value (rest.dropWhile isBlank)).map fun (found, rest) => (some found, rest)
  | _ => .ok (none, text)

/-- The end of a line, with a comment before it if there is one. -/
def lineEnd (text : List Char) : Reading Unit :=
  let rest := text.dropWhile isBlank
  let rest := if rest.head? == some '#' then rest.dropWhile (!endsLine ·) else rest
  match rest with
  | [] => .ok ((), [])
  | c :: after => if endsLine c then .ok ((), after) else .error text

/-- A statement: a variable with its value, or a comment. -/
def statement (text : List Char) :
    Except (List Char) (Option (List Char × Option (List Char)) × List Char) := do
  let (found, rest) ← name (withoutExport text)
  let (given, rest) ← value? (rest.dropWhile isBlank)
  let (_, rest) ← lineEnd rest
  return (found.map fun name => (name, given), rest)

/-- What a text says first, and the text after it. Where a statement cannot be read, the rest of the
line is skipped. -/
def next (text : List Char) : Option (List Char × Option (List Char)) × List Char :=
  match statement text with
  | .ok result => result
  | .error stopped => (none, (stopped.dropWhile (!endsLine ·)).drop 1)

/-- The statements of a file, in order. White space between them does not count. -/
def assignments (text : List Char) : Variables :=
  go (text.length + 1) text
where
  /-- Reads at most the given number of statements. -/
  go : Nat → List Char → Variables
    | 0, _ => []
    | steps + 1, text =>
      let text := text.dropWhile Text.isSpace
      if text.isEmpty then []
      else
        let (found, rest) := next text
        found.toList ++ go steps rest

/-- A text without the byte-order mark at its beginning. -/
def withoutMark : List Char → List Char
  | '\uFEFF' :: rest => rest
  | text => text

/-- The variables that a file makes in an environment. -/
def load (environment : Variables) (text : List Char) : Variables :=
  resolve environment (assignments (Text.unifyLineEnds (withoutMark text)))

end QueryGate.Settings.EnvFile
