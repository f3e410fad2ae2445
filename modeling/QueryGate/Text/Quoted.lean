import QueryGate.Text.Printable

/-!
# Quoted texts

A value that is not a query is shown to the reader in quoted form. A text stands in single quotes,
or in double quotes if it holds single quotes and no double ones; a backslash spells out the quote,
the backslash, control characters, and every other character that is not printable. Bytes are shown
in the same way, with a `b` in front and nothing beyond ASCII shown as itself.

## Main definitions

* `hex` — a number in hexadecimal digits, filled up with zeros
* `quote` — the quoted form of a text
* `quoteBytes` — the quoted form of a byte sequence
-/

namespace QueryGate.Text

/-- A number in lower-case hexadecimal digits, with zeros in front up to the given width. -/
def hex (width n : Nat) : List Char :=
  let digits := Nat.toDigits 16 n
  List.replicate (width - digits.length) '0' ++ digits

/-- The quote around a text: single, unless only single quotes occur in it. -/
def quoteFor (text : List Char) : Char :=
  if text.contains '\x27' && !text.contains '\x22' then '\x22' else '\x27'

/-- A character as it is written between quotes; `shown` says which need no escape. -/
def quoteChar (shown : Char → Bool) (mark c : Char) : List Char :=
  if c == mark || c == '\\' then ['\\', c]
  else if c == '\t' then ['\\', 't']
  else if c == '\n' then ['\\', 'n']
  else if c == '\r' then ['\\', 'r']
  else if shown c then [c]
  else if c.toNat < 0x100 then '\\' :: 'x' :: hex 2 c.toNat
  else if c.toNat < 0x10000 then '\\' :: 'u' :: hex 4 c.toNat
  else '\\' :: 'U' :: hex 8 c.toNat

/-- The quoted form of a text. -/
def quote (text : List Char) : List Char :=
  let mark := quoteFor text
  mark :: text.flatMap (quoteChar isPrintable mark) ++ [mark]

/-- The quoted form of a byte sequence. -/
def quoteBytes (bytes : List UInt8) : List Char :=
  let text := bytes.map fun b => Char.ofNat b.toNat
  let mark := quoteFor text
  let shown (c : Char) : Bool := c.toNat < 0x80 && isPrintable c
  'b' :: mark :: text.flatMap (quoteChar shown mark) ++ [mark]

end QueryGate.Text
