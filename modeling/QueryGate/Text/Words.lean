import QueryGate.Text.Upper
import QueryGate.Text.Word

/-!
# Words of a text

A word is a maximal run of word characters. Keyword rules look at a word's upper-case form and at
what follows it, so each word is found together with the text after it.

## Main definitions

* `WordAt` — a word and the text after it
* `wordsAt` — all words of a text, from left to right
* `words` — the words alone
* `countWord` — how many words have a given upper-case form
-/

namespace QueryGate.Text

/-- An occurrence of a word: the word itself and the text after it. -/
structure WordAt where
  word : List Char
  after : List Char
  deriving Repr, DecidableEq

/-- Whether a text begins inside a word. -/
def startsInWord : List Char → Bool
  | [] => false
  | c :: _ => isWordChar c

/-- Puts one more character in front of the first word found. -/
def WordAt.extendFirst (c : Char) : List WordAt → List WordAt
  | [] => []
  | w :: rest => { w with word := c :: w.word } :: rest

/-- The words of a text, from left to right. A word character starts a new word exactly when none
stands before it, so the list is built from the right: the character joins the first word of the
remaining text if that text begins inside a word. -/
def wordsAt : List Char → List WordAt
  | [] => []
  | c :: rest =>
    if isWordChar c then
      if startsInWord rest then WordAt.extendFirst c (wordsAt rest)
      else ⟨[c], rest⟩ :: wordsAt rest
    else wordsAt rest

/-- The maximal runs of word characters, from left to right. -/
def words (text : List Char) : List (List Char) :=
  (wordsAt text).map WordAt.word

/-- How many words of a text have the given upper-case form. -/
def countWord (capitals text : List Char) : Nat :=
  (words text).countP fun word => upperText word == capitals

end QueryGate.Text
