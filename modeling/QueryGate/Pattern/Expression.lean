import QueryGate.Text.DecimalDigit
import QueryGate.Text.Space
import QueryGate.Text.Word

/-!
# Regular expressions

The expressions in which allowed query shapes are written: single characters, character classes,
groups, alternatives, counted repetition, lookahead, and conditions on the place in the text. An
expression is asked one question only, whether it matches the whole of a text, so greedy and lazy
repetition mean the same and groups only hold things together.

## Main definitions

* `Category` — the predefined sets: digits, white space, word characters
* `ClassItem` — a member of a bracketed character class
* `Expression` — a regular expression
-/

namespace QueryGate.Pattern

/-- A predefined set of characters. -/
inductive Category where
  | digit
  | space
  | word
  deriving Repr, DecidableEq

/-- The members of a predefined set. -/
def Category.contains : Category → Char → Bool
  | digit => Text.isDecimalDigit
  | space => Text.isSpace
  | word => Text.isWordChar

/-- What can stand in a character class: a character, a range of code points, or a predefined set
or its complement. -/
inductive ClassItem where
  | single (c : Char)
  | range (low high : Char)
  | category (set : Category) (complement : Bool)
  deriving Repr, DecidableEq

/-- A regular expression. -/
inductive Expression where
  /-- Matches the empty text. -/
  | empty
  /-- Matches one given character. -/
  | char (c : Char)
  /-- Matches any character but the line feed. -/
  | anyChar
  /-- Matches a character that is, or with `complement` is not, among the items. -/
  | oneOf (complement : Bool) (items : List ClassItem)
  /-- Holds at the start of the text. -/
  | textStart
  /-- Holds at the end of the text, and before a line feed that ends it. -/
  | textEnd
  /-- Holds only at the very end of the text. -/
  | textLimit
  /-- Holds where a word begins or ends, or with `complement` where none does. -/
  | wordEdge (complement : Bool)
  /-- A parenthesised expression, with its name if it has one. -/
  | group (name : Option (List Char)) (inside : Expression)
  /-- Matches one expression and then the other. -/
  | seq (first second : Expression)
  /-- Matches either expression. -/
  | alt (left right : Expression)
  /-- Matches an expression at least `least` times and, if there is a bound, at most `most`. -/
  | repeated (inside : Expression) (least : Nat) (most : Option Nat)
  /-- Holds where the expression matches, or with `complement` does not match, what follows. -/
  | lookahead (complement : Bool) (inside : Expression)
  deriving Repr, DecidableEq

namespace Expression

/-- Matches the given expressions one after the other. -/
def seqAll : List Expression → Expression
  | [] => empty
  | [e] => e
  | e :: rest => seq e (seqAll rest)

/-- Whether an expression is a bare condition on the place in the text. Such a condition cannot be
repeated, unlike a lookahead. -/
def isPlace : Expression → Bool
  | textStart | textEnd | textLimit | wordEdge _ => true
  | _ => false

/-- Whether an expression is a repetition that no group encloses. -/
def isRepetition : Expression → Bool
  | repeated .. => true
  | _ => false

/-- The names of all groups, from left to right. -/
def groupNames : Expression → List (List Char)
  | group name inside => name.toList ++ inside.groupNames
  | seq a b | alt a b => a.groupNames ++ b.groupNames
  | repeated inside _ _ | lookahead _ inside => inside.groupNames
  | _ => []

end Expression

end QueryGate.Pattern
