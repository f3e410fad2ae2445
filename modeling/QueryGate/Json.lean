import QueryGate.Decimal.Digits
import QueryGate.Value

/-!
# Reading JSON

Lists in settings are written in JSON. The reader keeps the order of an object's fields and tells
whole numbers from decimal ones; beyond the standard it takes `NaN` and the infinities. A name that
occurs twice keeps its first place and its last value.

## Main definitions

* `Json.read?` — the value written as a JSON text, if it is one
-/

namespace QueryGate.Json

/-- The text without the white space that JSON allows between tokens. -/
def skipBlank (text : List Char) : List Char :=
  text.dropWhile fun c => c == ' ' || c == '\t' || c == '\n' || c == '\r'

/-- The text after a given beginning, if it has it. -/
def after? : List Char → List Char → Option (List Char)
  | [], text => some text
  | _ :: _, [] => none
  | c :: word, d :: text => if c == d then after? word text else none

/-- The value of a hexadecimal digit. -/
def hexDigit? (c : Char) : Option Nat :=
  if c.isDigit then some (c.toNat - '0'.toNat)
  else if 'a' ≤ c ∧ c ≤ 'f' then some (c.toNat - 'a'.toNat + 10)
  else if 'A' ≤ c ∧ c ≤ 'F' then some (c.toNat - 'A'.toNat + 10)
  else none

/-- The number written by four hexadecimal digits, and the text after them. -/
def hexUnit? : List Char → Option (Nat × List Char)
  | a :: b :: c :: d :: rest => do
    let high := (← hexDigit? a) * 16 + (← hexDigit? b)
    let low := (← hexDigit? c) * 16 + (← hexDigit? d)
    return (high * 256 + low, rest)
  | _ => none

/-- The character of one or two sixteen-bit units after `\u`, and the text after them. A high
surrogate joins the low one that follows it; one that stands alone is no character. -/
def readUnit? (text : List Char) : Option (Option Char × List Char) := do
  let (high, rest) ← hexUnit? text
  if 0xD800 ≤ high ∧ high < 0xDC00 then
    match rest with
    | '\\' :: 'u' :: more =>
      match hexUnit? more with
      | some (low, after) =>
        if 0xDC00 ≤ low ∧ low < 0xE000 then
          return (some (Char.ofNat (0x10000 + (high - 0xD800) * 0x400 + (low - 0xDC00))), after)
        else return (none, rest)
      | none => return (none, rest)
    | _ => return (none, rest)
  else if 0xDC00 ≤ high ∧ high < 0xE000 then return (none, rest)
  else return (some (Char.ofNat high), rest)

/-- The characters that stand for others after a backslash. -/
def escape? : Char → Option Char
  | '\x22' => some '\x22'
  | '\\' => some '\\'
  | '/' => some '/'
  | 'b' => some '\x08'
  | 'f' => some '\x0c'
  | 'n' => some '\n'
  | 'r' => some '\r'
  | 't' => some '\t'
  | _ => none

/-- The rest of a string after its opening quote, and the text after its closing one. The
characters read so far stand in reverse order; where half a surrogate pair stands alone, there is
none. -/
def readString? : Nat → List (Option Char) → List Char → Option (List (Option Char) × List Char)
  | 0, _, _ => none
  | _, _, [] => none
  | steps + 1, found, c :: rest =>
    if c == '\x22' then some (found.reverse, rest)
    else if c == '\\' then
      match rest with
      | [] => none
      | 'u' :: rest => do
        let (d, rest) ← readUnit? rest
        readString? steps (d :: found) rest
      | d :: rest => do readString? steps (some (← escape? d) :: found) rest
    else if c.toNat < 0x20 then none
    else readString? steps (some c :: found) rest

/-- The characters of a string, with U+FFFD for half a surrogate pair. -/
def charsOf (found : List (Option Char)) : List Char :=
  found.map (·.getD '\uFFFD')

/-- The value of a string. One that holds half a surrogate pair is no text, and only bytes. -/
def stringValue (found : List (Option Char)) : Value :=
  if found.all Option.isSome then .text (charsOf found)
  else .bytes (String.ofList (charsOf found)).toUTF8.toList

/-- The decimal `mantissa · 10 ^ exponent` as a binary64 number. Exponents far outside the range of
such numbers are cut down first; that changes nothing. -/
def floatOf (negative : Bool) (mantissa : Nat) (exponent : Int) : Float :=
  let bound : Int := 400 + (Nat.toDigits 10 mantissa).length
  let exponent := max (-bound) (min bound exponent)
  let magnitude := Float.ofScientific mantissa (exponent < 0) exponent.natAbs
  if negative then -magnitude else magnitude

/-- The digits of a fraction after its point, if a text begins with one, and the text after it. -/
def readFraction (text : List Char) : List Char × List Char :=
  match text with
  | '.' :: rest =>
    let digits := rest.takeWhile Char.isDigit
    if digits.isEmpty then ([], text) else (digits, rest.dropWhile Char.isDigit)
  | _ => ([], text)

/-- The exponent that begins a text, if one does, and the text after it. -/
def readExponent (text : List Char) : Option Int × List Char :=
  match text with
  | mark :: rest =>
    if mark == 'e' || mark == 'E' then
      let negative := rest.head? == some '-'
      let rest := if negative || rest.head? == some '+' then rest.drop 1 else rest
      let digits := rest.takeWhile Char.isDigit
      if digits.isEmpty then (none, text)
      else (some (if negative then -(Decimal.ofDigits digits : Int) else Decimal.ofDigits digits),
        rest.dropWhile Char.isDigit)
    else (none, text)
  | [] => (none, text)

/-- The number that begins a text, and the text after it. -/
def readNumber? (text : List Char) : Option (Value × List Char) :=
  let negative := text.head? == some '-'
  let text := if negative then text.drop 1 else text
  let digits := text.takeWhile Char.isDigit
  if digits.isEmpty then none
  else
    let whole := if digits.head? == some '0' then ['0'] else digits
    let (fraction, rest) := readFraction (text.drop whole.length)
    let (exponent, rest) := readExponent rest
    if fraction.isEmpty && exponent.isNone then
      if Decimal.digitLimit < whole.length then none
      else
        let n : Int := Decimal.ofDigits whole
        some (.int (if negative then -n else n), rest)
    else
      let shift := exponent.getD 0 - fraction.length
      some (.float (floatOf negative (Decimal.ofDigits (whole ++ fraction)) shift), rest)

/-- The words that stand for values. -/
def constants : List (List Char × Value) :=
  [("null".toList, .null), ("true".toList, .bool true), ("false".toList, .bool false),
   ("NaN".toList, .float (0 / 0)), ("Infinity".toList, .float (1 / 0)),
   ("-Infinity".toList, .float (-1 / 0))]

/-- The constant that begins a text, and the text after it. -/
def readConstant? (text : List Char) : Option (Value × List Char) :=
  constants.findSome? fun (word, value) => (after? word text).map fun rest => (value, rest)

/-- Sets a field of an object; a name that is already there keeps its place. -/
def putField (name : List Char) (value : Value) :
    List (List Char × Value) → List (List Char × Value)
  | [] => [(name, value)]
  | field :: rest =>
    if field.1 == name then (name, value) :: rest else field :: putField name value rest

mutual

/-- The value that begins a text, and the text after it. -/
def readValue? : Nat → List Char → Option (Value × List Char)
  | 0, _ => none
  | steps + 1, text =>
    match text with
    | '\x22' :: rest =>
      (readString? (rest.length + 1) [] rest).map fun (found, rest) => (stringValue found, rest)
    | '[' :: rest =>
      match skipBlank rest with
      | ']' :: rest => some (.list [], rest)
      | rest => readElements? steps [] rest
    | '\x7b' :: rest =>
      match skipBlank rest with
      | '\x7d' :: rest => some (.record [], rest)
      | rest => readFields? steps [] rest
    | _ => (readConstant? text).or (readNumber? text)

/-- The elements of an array up to its closing bracket, and the text after it. The elements read so
far stand in reverse order. -/
def readElements? : Nat → List Value → List Char → Option (Value × List Char)
  | 0, _, _ => none
  | steps + 1, found, text => do
    let (value, rest) ← readValue? steps text
    match skipBlank rest with
    | ']' :: rest => return (.list (value :: found).reverse, rest)
    | ',' :: rest => readElements? steps (value :: found) (skipBlank rest)
    | _ => none

/-- The fields of an object up to its closing brace, and the text after it. -/
def readFields? : Nat → List (List Char × Value) → List Char → Option (Value × List Char)
  | 0, _, _ => none
  | steps + 1, found, text => do
    match text with
    | '\x22' :: rest =>
      let (chars, rest) ← readString? (rest.length + 1) [] rest
      match skipBlank rest with
      | ':' :: rest =>
        let (value, rest) ← readValue? steps (skipBlank rest)
        let found := putField (charsOf chars) value found
        match skipBlank rest with
        | '\x7d' :: rest => return (.record found, rest)
        | ',' :: rest => readFields? steps found (skipBlank rest)
        | _ => none
      | _ => none
    | _ => none

end

/-- The value written as a JSON text, or nothing if the text is not JSON. -/
def read? (text : List Char) : Option Value := do
  let (value, rest) ← readValue? (text.length + 1) (skipBlank text)
  if (skipBlank rest).isEmpty then some value else none

end QueryGate.Json
