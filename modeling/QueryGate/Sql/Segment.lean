import QueryGate.Text.DecimalDigit

/-!
# Segments of an SQL text

An SQL text is read as a sequence of segments: plain code, quoted literals and names, and three
sorts of comments. A comment that begins with `/*!` or `/*M!` is executable: a server of the MySQL
family runs what stands inside.

## Main definitions

* `QuoteMark`, `LineMark`, `ExecutableMark` — the ways to open a quoted text or a comment
* `Segment` — one segment, with what stands between its delimiters
* `Segment.text` — the characters of a segment as they stand in the SQL text
-/

namespace QueryGate.Sql

/-- The characters that open and close a quoted text. -/
inductive QuoteMark where
  | single
  | double
  | backtick
  deriving Repr, DecidableEq

namespace QuoteMark

/-- The quote character. -/
def char : QuoteMark → Char
  | single => '\x27'
  | double => '\x22'
  | backtick => '\x60'

/-- Whether a backslash protects the character after it. It does so in literals, but not in names
between backticks. -/
def escapes : QuoteMark → Bool
  | backtick => false
  | _ => true

/-- The quote mark that a character stands for. -/
def ofChar? (c : Char) : Option QuoteMark :=
  if c == single.char then some single
  else if c == double.char then some double
  else if c == backtick.char then some backtick
  else none

end QuoteMark

/-- The two ways to open a comment that runs to the end of the line. -/
inductive LineMark where
  | hash
  | dashes
  deriving Repr, DecidableEq

/-- The characters of a line-comment mark. -/
def LineMark.text : LineMark → List Char
  | hash => ['#']
  | dashes => ['-', '-']

/-- What follows `/*` in an executable comment. -/
inductive ExecutableMark where
  | anyServer
  | mariaDb
  deriving Repr, DecidableEq

/-- The characters of an executable-comment mark. -/
def ExecutableMark.text : ExecutableMark → List Char
  | anyServer => ['!']
  | mariaDb => ['M', '!']

/-- A segment of an SQL text. A segment that is not `closed` runs to the end of the text. -/
inductive Segment where
  /-- Text outside quotes and comments. -/
  | code (text : List Char)
  /-- A quoted literal or name; `inside` is written as it stands, escapes included. -/
  | quoted (mark : QuoteMark) (inside : List Char) (closed : Bool)
  /-- A comment up to, and without, the end of its line. -/
  | lineComment (mark : LineMark) (inside : List Char)
  /-- A comment between `/*` and `*/` that no server runs. -/
  | blockComment (inside : List Char) (closed : Bool)
  /-- A comment whose `body` some server runs; the digits before it name a server version. -/
  | executableComment (mark : ExecutableMark) (version body : List Char) (closed : Bool)
  deriving Repr, DecidableEq

namespace Segment

/-- The closing delimiter of a block comment, if it is there. -/
def blockEnd (closed : Bool) : List Char :=
  if closed then ['*', '/'] else []

/-- The characters of the segment as they stand in the SQL text. -/
def text : Segment → List Char
  | code text => text
  | quoted mark inside closed => mark.char :: inside ++ (if closed then [mark.char] else [])
  | lineComment mark inside => mark.text ++ inside
  | blockComment inside closed => '/' :: '*' :: inside ++ blockEnd closed
  | executableComment mark version body closed =>
    '/' :: '*' :: mark.text ++ version ++ body ++ blockEnd closed

/-- What a server runs of a comment that it does not skip. -/
def body : Segment → List Char
  | executableComment _ _ body _ => body
  | _ => []

/-- Whether the segment has the delimiter that should end it. Code and line comments need none. -/
def isTerminated : Segment → Bool
  | quoted _ _ closed => closed
  | blockComment _ closed => closed
  | executableComment _ _ _ closed => closed
  | _ => true

/-- Whether the segment is a comment of any sort. -/
def isComment : Segment → Bool
  | lineComment .. | blockComment .. | executableComment .. => true
  | _ => false

/-- The characters of several segments in a row. -/
def textOfAll (segments : List Segment) : List Char :=
  segments.flatMap text

end Segment

end QueryGate.Sql
