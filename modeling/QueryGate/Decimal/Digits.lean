/-!
# Decimal digits of whole numbers

Whole numbers are read from their digits wherever they are written: in patterns, in settings and in
JSON. Neither are long numbers read nor are they written.
-/

namespace QueryGate.Decimal

/-- The number that some decimal digits write. -/
def ofDigits (digits : List Char) : Nat :=
  digits.foldl (fun n c => 10 * n + (c.toNat - '0'.toNat)) 0

/-- Whole numbers that are read or written have at most so many digits. -/
def digitLimit : Nat := 4300

end QueryGate.Decimal
