import QueryGate.Decimal.Digits
import QueryGate.Decimal.Shortest
import QueryGate.Text.Quoted

/-!
# Values

An agent can submit anything as a query, and a program can configure the gate with anything; what is
not of the right sort is refused or reported, never ignored. This module holds the values that can
be handed over and the two questions that are asked of all of them: whether a value counts as given,
and how it is shown.

## Main definitions

* `Value` — null, truth values, numbers, text, bytes, lists and records
* `Value.isTruthy` — whether a value counts as given
* `Value.shown?` — a value as it is shown in a message, if it can be shown
* `Value.asText?` — a text as itself, all else as it is shown
* `Value.typeName` — the name of a value's type
* `Value.elements?` — what a value yields when it is gone through one by one
-/

namespace QueryGate

/-- A value handed to the gate. -/
inductive Value where
  | null
  | bool (b : Bool)
  | int (n : Int)
  | float (x : Float)
  | text (chars : List Char)
  | bytes (content : List UInt8)
  | list (elements : List Value)
  | record (fields : List (List Char × Value))
  deriving Repr, Inhabited

namespace Value

/-- Whether a value counts as given: null, false, zero and everything empty do not. -/
def isTruthy : Value → Bool
  | null => false
  | bool b => b
  | int n => n != 0
  | float x => x != 0
  | text chars => !chars.isEmpty
  | bytes content => !content.isEmpty
  | list elements => !elements.isEmpty
  | record fields => !fields.isEmpty

/-- Numbers have a decimal point, an exponent of at least two digits from `10 ^ 16` on and below
`10 ^ -4`, and no digits beyond those needed. -/
def numberLayout : Decimal.Layout := ⟨-4, 16, 2⟩

/-- A whole number in decimal digits; nothing if it has more of them than are written. -/
def shownInt? (n : Int) : Option (List Char) :=
  let digits := Nat.toDigits 10 n.natAbs
  if Decimal.digitLimit < digits.length then none
  else some ((if n < 0 then ['-'] else []) ++ digits)

/-- A truth value as a word. -/
def shownBool (b : Bool) : List Char :=
  (if b then "True" else "False").toList

mutual

/-- A value as it is shown in a message; nothing if a whole number in it cannot be shown. -/
def shown? : Value → Option (List Char)
  | null => some "None".toList
  | bool b => some (shownBool b)
  | int n => shownInt? n
  | float x => some (numberLayout.render x)
  | text chars => some (Text.quote chars)
  | bytes content => some (Text.quoteBytes content)
  | list elements => (shownElements? elements).map fun inside => '[' :: inside ++ [']']
  | record fields => (shownFields? fields).map fun inside => '\x7b' :: inside ++ ['\x7d']

/-- The elements of a list, separated by commas. -/
def shownElements? : List Value → Option (List Char)
  | [] => some []
  | [v] => v.shown?
  | v :: rest => do return (← v.shown?) ++ ", ".toList ++ (← shownElements? rest)

/-- The fields of a record, separated by commas. -/
def shownFields? : List (List Char × Value) → Option (List Char)
  | [] => some []
  | [(name, v)] => do return Text.quote name ++ ": ".toList ++ (← v.shown?)
  | (name, v) :: rest => do
    return Text.quote name ++ ": ".toList ++ (← v.shown?) ++ ", ".toList ++ (← shownFields? rest)

end

/-- A value as text: a text is itself, and all else is as shown. -/
def asText? : Value → Option (List Char)
  | text chars => some chars
  | v => v.shown?

/-- The name of a value's type. -/
def typeName : Value → List Char
  | null => "NoneType".toList
  | bool _ => "bool".toList
  | int _ => "int".toList
  | float _ => "float".toList
  | text _ => "str".toList
  | bytes _ => "bytes".toList
  | list _ => "list".toList
  | record _ => "dict".toList

/-- What a value yields when it is gone through one by one: the elements of a list, the characters
of a text, the bytes of a byte sequence, the names of a record's fields. Other values yield nothing
and cannot be gone through. -/
def elements? : Value → Option (List Value)
  | list elements => some elements
  | text chars => some (chars.map fun c => text [c])
  | bytes content => some (content.map fun b => int b.toNat)
  | record fields => some (fields.map fun field => text field.1)
  | _ => none

/-- The field of a record with the given name. -/
def field? (name : String) : Value → Option Value
  | record fields => fields.lookup name.toList
  | _ => none

end Value

end QueryGate
