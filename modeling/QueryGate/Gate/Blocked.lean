import QueryGate.Gate.Keyword
import QueryGate.Sql.Split
import QueryGate.Text.Words

/-!
# Blocked tokens

The scan for words and literals that a read-only query may not contain. It goes through the
segments of a text and, within each, through the words; quoted text and comments are scanned like
code, because another server may read them as code. Whether some words are blocked depends on what
follows them in the text, be it in the same segment or in a later one.

## Main definitions

* `follower` — the first character after a word that is neither a space nor the quoting of a name
* `blockedWord?` — the name under which a word is blocked, if it is
* `encodedLiteral?` — the name of an encoded literal that a word begins, if it does
* `findBlocked` — the first blocked token of a text
-/

namespace QueryGate.Gate

/-- Whether a character counts when one looks at what follows a word: spaces and the closing quotes
of names do not. -/
def isVisible (c : Char) : Bool :=
  c != ' ' && c != '\x60' && c != '\x22'

/-- The first visible character after a word: in the rest of its segment, or else in the segments
after it. -/
def follower (after : List Char) (later : List Sql.Segment) : Option Char :=
  match after.find? isVisible with
  | some c => some c
  | none => later.findSome? fun segment => segment.text.find? isVisible

/-- The name under which a word is blocked: some words are blocked everywhere, and so is every
number written in another base; encoding functions are blocked before an opening parenthesis, words
that are also functions everywhere else, and system schemas before a dot. -/
def blockedWord? (tables : List (List Char)) (found : Text.WordAt) (later : List Sql.Segment) :
    Option (List Char) :=
  let word := Text.upperText found.word
  if Keyword.alwaysBlocked.contains word || tables.contains word ||
      Keyword.encodedNumberMarks.any (·.isPrefixOf word) then
    some word
  else
    -- Only the words below depend on what follows, so it is looked up late.
    let next := follower found.after later
    if Keyword.encodingFunctions.contains word && next == some '(' then some (word ++ ['(', ')'])
    else if Keyword.functionsOnly.contains word && next != some '(' then some word
    else if Keyword.systemSchemas.contains word && next == some '.' then some word
    else none

/-- Whether the next segment is a literal in single quotes. -/
def opensString : List Sql.Segment → Bool
  | .quoted .single _ _ :: _ => true
  | _ => false

/-- The name of the encoded literal that a word begins: the word is a mark, ends a piece of code,
and has a literal in single quotes right after it. -/
def encodedLiteral? (segment : Sql.Segment) (found : Text.WordAt) (later : List Sql.Segment) :
    Option (List Char) :=
  match segment with
  | .code _ =>
    let word := Text.upperText found.word
    if Keyword.encodedStringMarks.contains word && found.after.isEmpty && opensString later then
      some (word ++ "'...'".toList)
    else none
  | _ => none

/-- The first blocked token of a segment, given the segments after it. -/
def findBlockedInSegment (tables : List (List Char)) (segment : Sql.Segment)
    (later : List Sql.Segment) : Option (List Char) :=
  (Text.wordsAt segment.text).findSome? fun found =>
    (blockedWord? tables found later).or (encodedLiteral? segment found later)

/-- The first blocked token of some segments. -/
def findBlockedInSegments (tables : List (List Char)) : List Sql.Segment → Option (List Char)
  | [] => none
  | segment :: later =>
    match findBlockedInSegment tables segment later with
    | some token => some token
    | none => findBlockedInSegments tables later

/-- The first blocked token of a text, in the form in which it is named. The names of blocked tables
are given in upper case. -/
def findBlocked (tables : List (List Char)) (text : List Char) : Option (List Char) :=
  findBlockedInSegments tables (Sql.split text)

end QueryGate.Gate
