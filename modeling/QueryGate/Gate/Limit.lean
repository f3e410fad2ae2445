import QueryGate.Value

/-!
# Length limits

A gate can be given a greatest length for queries, counted in characters. Any number will do,
decimal ones and truth values included; a limit that is no number shows only when a query is
compared with it.

## Main definitions

* `Limit` — no limit, a number, or a value that cannot be compared
* `Limit.exceededBy?` — whether a length is over the limit
* `Limit.shown?` — the limit as it is shown, if it can be shown
-/

namespace QueryGate.Gate

/-- A greatest length for queries. -/
inductive Limit where
  | unlimited
  | whole (n : Int)
  | decimal (x : Float)
  | flag (b : Bool)
  | incomparable
  deriving Repr

namespace Limit

/-- The limit that a value stands for. -/
def ofValue : Value → Limit
  | .null => unlimited
  | .int n => whole n
  | .float x => decimal x
  | .bool b => flag b
  | _ => incomparable

/-- Whether a length is over the limit; nothing if the limit cannot be compared with it. -/
def exceededBy? (length : Nat) : Limit → Option Bool
  | unlimited => some false
  | whole n => some (n < length)
  | decimal x => some (Decimal.isLess x length)
  | flag b => some (b.toNat < length)
  | incomparable => none

/-- The limit as it is shown in a message; nothing if it has too many digits. -/
def shown? : Limit → Option (List Char)
  | whole n => Value.shownInt? n
  | decimal x => some (Value.numberLayout.render x)
  | flag b => some (Value.shownBool b)
  | unlimited | incomparable => some []

end Limit

end QueryGate.Gate
