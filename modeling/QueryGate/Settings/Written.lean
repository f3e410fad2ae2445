import QueryGate.Decimal.Digits
import QueryGate.Text.Space

/-!
# Written truth values and numbers

The forms in which settings can be written: some words for true and false, and whole numbers with
some freedom in white space, signs, zeros and underscores.

## Main definitions

* `readBool?` — the truth value that a text writes
* `readInt?` — the whole number that a text writes
-/

namespace QueryGate.Settings

/-- The words for true and for false. -/
def truthWords : List (String × Bool) :=
  [("1", true), ("true", true), ("t", true), ("yes", true), ("y", true), ("on", true),
   ("0", false), ("false", false), ("f", false), ("no", false), ("n", false), ("off", false)]

/-- The truth value that a text writes, in either case. -/
def readBool? (text : List Char) : Option Bool :=
  truthWords.findSome? fun (word, value) =>
    if word.toList == text.map Char.toLower then some value else none

/-- Whether a character is white space around a number. Information separators are not. -/
def isNumberBlank (c : Char) : Bool :=
  Text.isSpace c && !(0x1C ≤ c.toNat && c.toNat ≤ 0x1F)

/-- A text without the white space around it and without a plus sign. -/
def withoutPlus (text : List Char) : List Char :=
  match ((text.dropWhile isNumberBlank).reverse.dropWhile isNumberBlank).reverse with
  | '+' :: rest => rest
  | rest => rest

/-- A number without the zeros in front of its other digits. Underscores among the zeros go with
them; of zeros alone, the last character stays, and so does the one before a decimal point. A number
begins with a digit or a minus sign. -/
def withoutLeadingZeros? : List Char → Option (List Char)
  | '0' :: more =>
    let isFiller (c : Char) : Bool := c == '0' || c == '_'
    let last := (('0' :: more.takeWhile isFiller).getLast?).toList
    match more.dropWhile isFiller with
    | [] => some last
    | '.' :: rest => some (last ++ '.' :: rest)
    | c :: rest => if c.isDigit then some (c :: rest) else none
  | c :: rest => if c.isDigit || c == '-' then some (c :: rest) else none
  | [] => none

/-- A number without a fraction of zeros. The fraction has at least one zero. -/
def withoutZeroFraction (text : List Char) : List Char :=
  match text.dropWhile (· != '.') with
  | _ :: '0' :: zeros => if zeros.all (· == '0') then text.takeWhile (· != '.') else text
  | _ => text

/-- Whether two underscores stand side by side. -/
def hasDoubleUnderscore : List Char → Bool
  | '_' :: '_' :: _ => true
  | _ :: rest => hasDoubleUnderscore rest
  | [] => false

/-- A number without its underscores, unless they stand at an end or side by side. -/
def withoutUnderscores (text : List Char) : List Char :=
  if text.head? == some '_' || text.getLast? == some '_' || hasDoubleUnderscore text then text
  else text.filter (· != '_')

/-- The number that some decimal digits write. -/
def readNat? (digits : List Char) : Option Nat :=
  if digits.isEmpty || Decimal.digitLimit < digits.length || !digits.all Char.isDigit then none
  else some (Decimal.ofDigits digits)

/-- The whole number that decimal digits write, possibly after a minus sign. -/
def readSigned? : List Char → Option Int
  | '-' :: digits => (readNat? digits).map fun n => -(n : Int)
  | digits => (readNat? digits).map Int.ofNat

/-- The whole number that a text writes: white space around it, a sign in front, underscores between
digits and a fraction of zeros are allowed. -/
def readInt? (text : List Char) : Option Int := do
  let number ← withoutLeadingZeros? (withoutPlus text)
  readSigned? (withoutUnderscores (withoutZeroFraction number))

end QueryGate.Settings
