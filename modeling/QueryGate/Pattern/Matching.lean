import QueryGate.Pattern.Expression
import QueryGate.Text.CaseVariant
import QueryGate.Text.Upper

/-!
# Matching regular expressions

From a set of positions in a text, an expression leads to the set of positions where a match can
end. Sets of positions are ascending lists, so that no position is followed up twice: however
alternatives and repetitions nest, the work stays polynomial in the length of the text.

## Main definitions

* `Subject` — the text to match, and whether case counts
* `union` — the union of two sets of positions
* `reach` — the positions reached by any number of steps
* `Expression.ends` — the positions where a match can end
* `Expression.matchesAll` — whether an expression matches a whole text
-/

namespace QueryGate.Pattern

/-- A text to match, and whether letters match their case variants. -/
structure Subject where
  text : Array Char
  ignoreCase : Bool

/-- Whether a written character matches one of the text. -/
def Subject.sameChar (s : Subject) (written c : Char) : Bool :=
  if s.ignoreCase then Text.sameLetter written c else written == c

/-- Whether a range that ends beyond U+FFFF contains the capital of a character: of several characters
that make its upper-case form, the first. -/
def hasCapital (low high c : Char) : Bool :=
  0xFFFF < high.toNat &&
    (Text.upper (Text.smallLetter c)).head?.any fun capital => low ≤ capital && capital ≤ high

/-- Whether one of several class items matches a character. Without case, a range matches a
character if it contains one of its variants, and so does a written character. Beyond U+FFFF it is
otherwise: the written character has to be the small letter, and a range is also asked for the
capital. -/
def Subject.hasItem (s : Subject) (c : Char) : ClassItem → Bool
  | .single d =>
    if s.ignoreCase && 0xFFFF < d.toNat then Text.smallLetter c == d else s.sameChar d c
  | .range low high =>
    (low ≤ c && c ≤ high) ||
      (s.ignoreCase && ((Text.caseVariants c).any (fun v => low ≤ v && v ≤ high) ||
        hasCapital low high c))
  | .category set complement => set.contains c != complement

/-- The character that a class lists, if it lists no other. -/
def onlyMember? : List ClassItem → Option Char
  | .single d :: rest => if rest.all (· == .single d) then some d else none
  | _ => none

/-- Whether a class, its complement left aside, matches a character. A class of one character is
that character. -/
def Subject.inClass (s : Subject) (items : List ClassItem) (c : Char) : Bool :=
  match onlyMember? items with
  | some d => s.sameChar d c
  | none => items.any (s.hasItem c)

/-- Whether a position stands at the beginning or the end of a word. -/
def Subject.isWordEdge (s : Subject) (i : Nat) : Bool :=
  let before := i != 0 && s.text[i - 1]?.any Text.isWordChar
  before != s.text[i]?.any Text.isWordChar

/-- The union of two ascending lists. -/
def union : List Nat → List Nat → List Nat
  | [], js => js
  | is, [] => is
  | i :: is, j :: js =>
    if i < j then i :: union is (j :: js)
    else if j < i then j :: union (i :: is) js
    else i :: union is js
termination_by is js => is.length + js.length

/-- The positions that satisfy a condition on the next character, each moved past it. -/
def Subject.advance (s : Subject) (test : Char → Bool) (is : List Nat) : List Nat :=
  (is.filter fun i => s.text[i]?.any test).map (· + 1)

/-- The positions reached from a set by applying a step any number of times, none included. The
leftmost position is followed up first; from it only later ones are new. -/
def reach (step : Nat → List Nat) : Nat → List Nat → List Nat
  | 0, _ => []
  | _, [] => []
  | bound + 1, i :: is => i :: reach step bound (union is ((step i).filter (i < ·)))

/-- The positions reached by exactly `n` applications of a step to a set. -/
def stepTimes (step : List Nat → List Nat) : Nat → List Nat → List Nat
  | 0, is => is
  | n + 1, is => stepTimes step n (step is)

/-- The positions reached by at most `n` applications of a step to a set. -/
def stepUpTo (step : List Nat → List Nat) : Nat → List Nat → List Nat
  | 0, is => is
  | n + 1, is => if is.isEmpty then [] else union is (stepUpTo step n (step is))

/-- The positions where a match that starts in one of the given positions can end. -/
def Expression.ends (s : Subject) : Expression → List Nat → List Nat
  | .empty, is => is
  | .char c, is => s.advance (s.sameChar c) is
  | .anyChar, is => s.advance (· != '\n') is
  | .oneOf complement items, is => s.advance (fun c => s.inClass items c != complement) is
  | .textStart, is => is.filter (· == 0)
  | .textEnd, is => is.filter fun i =>
      i == s.text.size || (i + 1 == s.text.size && s.text[i]? == some '\n')
  | .textLimit, is => is.filter (· == s.text.size)
  | .wordEdge complement, is => is.filter fun i =>
      !s.text.isEmpty && s.isWordEdge i != complement
  | .group _ inside, is => inside.ends s is
  | .seq first second, is => second.ends s (first.ends s is)
  | .alt left right, is => union (left.ends s is) (right.ends s is)
  | .repeated inside least most, is =>
    let start := stepTimes (inside.ends s) least is
    -- Without a bound, the positions of the text are all that can be reached.
    match most with
    | none => reach (fun i => inside.ends s [i]) (s.text.size + 1) start
    | some most => stepUpTo (inside.ends s) (most - least) start
  | .lookahead complement inside, is => is.filter fun i =>
      (inside.ends s [i]).isEmpty == complement

/-- Whether an expression matches the whole of a text. -/
def Expression.matchesAll (e : Expression) (ignoreCase : Bool) (text : List Char) : Bool :=
  (e.ends ⟨text.toArray, ignoreCase⟩ [0]).contains text.length

end QueryGate.Pattern
