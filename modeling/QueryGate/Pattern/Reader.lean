import QueryGate.Decimal.Digits
import QueryGate.Pattern.Expression
import QueryGate.Text.CaseVariant
import QueryGate.Text.Identifier

/-!
# Reading regular expressions

The written form of a regular expression, read from left to right by recursive descent: alternatives
are sequences, a sequence is a list of items, and a quantifier applies to the item before it. Each
step takes at least one character away before it starts another, so a step count of twice the
length of the text is always enough.

Some forms are not read here: references to groups, lookbehind, flags, codes of characters,
repetition and groups without backtracking. They are told apart from mistakes.

## Main definitions

* `ReadError` — why a text is not a regular expression
* `readExpression` — the expression written as a text
-/

namespace QueryGate.Pattern

/-- Why a text is not a regular expression. -/
inductive ReadError where
  /-- A group without its closing parenthesis. -/
  | unclosedGroup
  /-- A closing parenthesis without a group. -/
  | unopenedGroup
  /-- A character class without its closing bracket. -/
  | unclosedClass
  /-- A range whose ends are in the wrong order, or are not single characters. -/
  | badRange
  /-- A quantifier with nothing before it that can be repeated. -/
  | nothingToRepeat
  /-- A quantifier on a quantifier. -/
  | repeatedTwice
  /-- A lower bound above the upper bound. -/
  | crossedBounds
  /-- A bound of at least `repetitionLimit`. -/
  | boundTooLarge
  /-- A bound with more digits than are read. -/
  | boundTooLong
  /-- A backslash at the end. -/
  | danglingBackslash
  /-- A letter or digit that has no meaning after a backslash. -/
  | unknownEscape (c : Char)
  /-- A group of an unknown sort. -/
  | unknownGroup
  /-- A group name that is not an identifier. -/
  | badGroupName
  /-- Two groups of one name. -/
  | repeatedGroupName
  /-- A form that is not read here, which need not be a mistake. -/
  | beyond
  /-- The reader ran out of steps; `readExpression` gives it enough. -/
  | outOfSteps
  deriving Repr, DecidableEq

/-- Repetition counts stay below this number. -/
def repetitionLimit : Nat := 4294967295

/-- The control characters that letters stand for after a backslash. -/
def controlEscape? : Char → Option Char
  | 'a' => some '\x07'
  | 'f' => some '\x0c'
  | 'n' => some '\n'
  | 'r' => some '\r'
  | 't' => some '\t'
  | 'v' => some '\x0b'
  | _ => none

/-- The predefined sets that letters stand for after a backslash. -/
def categoryEscape? : Char → Option ClassItem
  | 'd' => some (.category .digit false)
  | 'D' => some (.category .digit true)
  | 's' => some (.category .space false)
  | 'S' => some (.category .space true)
  | 'w' => some (.category .word false)
  | 'W' => some (.category .word true)
  | _ => none

/-- The letters that begin the code or the name of a character after a backslash. -/
def escapeMarks : List Char := ['x', 'u', 'U', 'N']

/-- A character that stands for itself after a backslash: anything but a letter or a digit of the
ASCII set. A digit begins a code, or the number of a group. -/
def literalEscape (c : Char) : Except ReadError Char :=
  if c.isDigit || escapeMarks.contains c then .error .beyond
  else if c.isAlpha then .error (.unknownEscape c)
  else .ok c

/-- The meaning of a backslash and a character outside classes. -/
def readEscape (c : Char) : Except ReadError Expression :=
  match categoryEscape? c, controlEscape? c, c with
  | some item, _, _ => .ok (.oneOf false [item])
  | _, some control, _ => .ok (.char control)
  | _, _, 'A' => .ok .textStart
  | _, _, 'Z' => .ok .textLimit
  | _, _, 'b' => .ok (.wordEdge false)
  | _, _, 'B' => .ok (.wordEdge true)
  | _, _, _ => (literalEscape c).map .char

/-- The meaning of a backslash and a character inside a class. -/
def readClassEscape (c : Char) : Except ReadError ClassItem :=
  match categoryEscape? c, controlEscape? c, c with
  | some item, _, _ => .ok item
  | _, some control, _ => .ok (.single control)
  | _, _, 'b' => .ok (.single '\x08')
  | _, _, _ => (literalEscape c).map .single

/-- One character or escape inside a class, and the text after it. -/
def readClassAtom : List Char → Except ReadError (ClassItem × List Char)
  | [] => .error .unclosedClass
  | ['\\'] => .error .danglingBackslash
  | '\\' :: c :: rest => do return (← readClassEscape c, rest)
  | c :: rest => .ok (.single c, rest)

/-- The range between two class atoms. -/
def rangeOf : ClassItem → ClassItem → Except ReadError ClassItem
  | .single low, .single high => if low ≤ high then .ok (.range low high) else .error .badRange
  | _, _ => .error .badRange

/-- The items of a class up to its closing bracket, in reverse order, and the text after it. A
bracket that comes first is a member, and so is a hyphen before the closing bracket. -/
def readClassItems : Nat → List ClassItem → List Char →
    Except ReadError (List ClassItem × List Char)
  | 0, _, _ => .error .outOfSteps
  | steps + 1, found, text => do
    -- A bracket closes the class only if something stands before it.
    if !found.isEmpty && text.head? == some ']' then
      return (found, text.drop 1)
    let (item, rest) ← readClassAtom text
    match rest with
    | ['-'] => .error .unclosedClass
    | '-' :: ']' :: rest => return (.single '-' :: item :: found, rest)
    | '-' :: rest =>
      let (last, rest) ← readClassAtom rest
      readClassItems steps ((← rangeOf item last) :: found) rest
    | rest => readClassItems steps (item :: found) rest

/-- A character class after its opening bracket, and the text after it. -/
def readClass (text : List Char) : Except ReadError (Expression × List Char) := do
  let complement := text.head? == some '^'
  let text := if complement then text.drop 1 else text
  let (items, rest) ← readClassItems (text.length + 1) [] text
  return (.oneOf complement items.reverse, rest)

/-- The digits of the bounds between braces, if what follows an opening brace has their form, and the
text after the closing brace. A single bound is both of them. -/
def readBounds? (text : List Char) : Option ((List Char × List Char) × List Char) :=
  if text.head? == some '}' then none
  else
    let low := text.takeWhile Char.isDigit
    match text.dropWhile Char.isDigit with
    | '}' :: rest => some ((low, low), rest)
    | ',' :: rest =>
      match rest.dropWhile Char.isDigit with
      | '}' :: after => some ((low, rest.takeWhile Char.isDigit), after)
      | _ => none
    | _ => none

/-- The least and the greatest count that a quantifier allows. -/
structure Bounds where
  least : Nat
  most : Option Nat
  deriving Repr, DecidableEq

/-- The bound written by some decimal digits, or nothing if there are none. -/
def boundOf (digits : List Char) : Except ReadError (Option Nat) :=
  if digits.isEmpty then .ok none
  else if Decimal.digitLimit < digits.length then .error .boundTooLong
  else if repetitionLimit ≤ Decimal.ofDigits digits then .error .boundTooLarge
  else .ok (some (Decimal.ofDigits digits))

/-- The bounds written by the digits that stand between braces. -/
def Bounds.ofDigits (low high : List Char) : Except ReadError Bounds := do
  let least := (← boundOf low).getD 0
  let most ← boundOf high
  if most.any (· < least) then .error .crossedBounds
  return ⟨least, most⟩

/-- The quantifier that begins a text, if one does, and the text after it. -/
def readQuantifier? : List Char → Except ReadError (Option (Bounds × List Char))
  | '*' :: rest => .ok (some (⟨0, none⟩, rest))
  | '+' :: rest => .ok (some (⟨1, none⟩, rest))
  | '?' :: rest => .ok (some (⟨0, some 1⟩, rest))
  | '\x7b' :: rest =>
    match readBounds? rest with
    | some (_, ['\\']) => .error .danglingBackslash
    | some ((low, high), rest) => do return some (← Bounds.ofDigits low high, rest)
    | none => .ok none
  | _ => .ok none

/-- Drops the mark that makes a quantifier lazy; the one that keeps it from giving anything back is
not read here. -/
def dropLazyMark : List Char → Except ReadError (List Char)
  | '?' :: rest => .ok rest
  | '+' :: _ => .error .beyond
  | text => .ok text

/-- Puts a quantifier on the last of the items found so far, which stands first. -/
def repeatLast (bounds : Bounds) : List Expression → Except ReadError (List Expression)
  | [] => .error .nothingToRepeat
  | item :: found =>
    if item.isPlace then .error .nothingToRepeat
    else if item.isRepetition then .error .repeatedTwice
    else .ok (.repeated item bounds.least bounds.most :: found)

/-- What an opening parenthesis begins. -/
inductive GroupSort where
  | plain (name : Option (List Char))
  | ahead (complement : Bool)
  | remark
  deriving Repr, DecidableEq

/-- The characters that begin the flags of a group. -/
def flagMarks : List Char := "aiLmsux-".toList

/-- The sort of the group that begins after an opening parenthesis, and the text inside. -/
def readGroupSort : List Char → Except ReadError (GroupSort × List Char)
  | '?' :: ':' :: rest => .ok (.plain none, rest)
  | '?' :: '=' :: rest => .ok (.ahead false, rest)
  | '?' :: '!' :: rest => .ok (.ahead true, rest)
  | '?' :: '#' :: rest => .ok (.remark, rest)
  | '?' :: 'P' :: '<' :: rest =>
    let name := rest.takeWhile (· != '>')
    match rest.dropWhile (· != '>') with
    | _ :: rest =>
      if Text.isIdentifier name then .ok (.plain (some name), rest) else .error .badGroupName
    | [] => .error .badGroupName
  -- A reference to a group, lookbehind, a choice by a group, and a group without backtracking.
  | '?' :: 'P' :: '=' :: _ | '?' :: '<' :: '=' :: _ | '?' :: '<' :: '!' :: _ | '?' :: '(' :: _
  | '?' :: '>' :: _ => .error .beyond
  | '?' :: c :: _ => .error (if flagMarks.contains c then .beyond else .unknownGroup)
  | '?' :: [] => .error .unknownGroup
  | text => .ok (.plain none, text)

/-- The text after the closing parenthesis that must begin it. -/
def closeGroup : List Char → Except ReadError (List Char)
  | ')' :: rest => .ok rest
  | _ => .error .unclosedGroup

/-- The text after a remark, which ends with the first closing parenthesis that has no backslash before
it. -/
def skipRemark : List Char → Except ReadError (List Char)
  | [] => .error .unclosedGroup
  | ['\\'] => .error .danglingBackslash
  | '\\' :: _ :: rest => skipRemark rest
  | ')' :: rest => .ok rest
  | _ :: rest => skipRemark rest

/-- Whether a character is a capital letter beyond U+FFFF. -/
def isFarCapital (c : Char) : Bool :=
  0xFFFF < c.toNat && Text.smallLetter c != c

/-- Whether a capital letter beyond U+FFFF is written in an expression. Where case does not count, an
alternative to it can keep it from matching, so such alternatives are not read here. -/
def Expression.hasFarCapital : Expression → Bool
  | .char c => isFarCapital c
  | .oneOf _ items => items.any fun
    | .single c => isFarCapital c
    | _ => false
  | .group _ inside | .repeated inside _ _ | .lookahead _ inside => inside.hasFarCapital
  | .seq first second | .alt first second => first.hasFarCapital || second.hasFarCapital
  | _ => false

mutual

/-- Alternatives up to a closing parenthesis or the end, and the text from there on. -/
def readAlternatives : Nat → List Char → Except ReadError (Expression × List Char)
  | 0, _ => .error .outOfSteps
  | steps + 1, text => do
    let (first, rest) ← readSequence steps [] text
    match rest with
    | '|' :: rest =>
      let (second, rest) ← readAlternatives steps rest
      if first.hasFarCapital || second.hasFarCapital then .error .beyond
      return (.alt first second, rest)
    | rest => return (first, rest)

/-- Items up to a bar, a closing parenthesis or the end, and the text from there on. The items found
so far stand in reverse order. -/
def readSequence : Nat → List Expression → List Char → Except ReadError (Expression × List Char)
  | 0, _, _ => .error .outOfSteps
  | _, found, [] => .ok (.seqAll found.reverse, [])
  | steps + 1, found, c :: rest => do
    if c == '|' || c == ')' then
      return (.seqAll found.reverse, c :: rest)
    -- A quantifier belongs to the item before it, not to the whole sequence.
    if let some (bounds, rest) ← readQuantifier? (c :: rest) then
      return ← readSequence steps (← repeatLast bounds found) (← dropLazyMark rest)
    match c with
    | '\\' =>
      match rest with
      | [] => .error .danglingBackslash
      | d :: rest => readSequence steps ((← readEscape d) :: found) rest
    | '[' =>
      let (item, rest) ← readClass rest
      readSequence steps (item :: found) rest
    | '(' =>
      match ← readGroupSort rest with
      | (.plain name, rest) =>
        let (inside, rest) ← readAlternatives steps rest
        readSequence steps (.group name inside :: found) (← closeGroup rest)
      | (.ahead complement, rest) =>
        let (inside, rest) ← readAlternatives steps rest
        readSequence steps (.lookahead complement inside :: found) (← closeGroup rest)
      | (.remark, rest) => readSequence steps found (← skipRemark rest)
    | '.' => readSequence steps (.anyChar :: found) rest
    | '^' => readSequence steps (.textStart :: found) rest
    | '$' => readSequence steps (.textEnd :: found) rest
    | c => readSequence steps (.char c :: found) rest

end

/-- The regular expression written as a text. -/
def readExpression (text : List Char) : Except ReadError Expression := do
  let (expression, rest) ← readAlternatives (2 * text.length + 2) text
  if !rest.isEmpty then .error .unopenedGroup
  else if expression.groupNames.Nodup then .ok expression
  else .error .repeatedGroupName

end QueryGate.Pattern
