/-!
# Runs of letters with one case distance

Case mappings move long stretches of an alphabet by the same distance: either every letter of a
stretch, or every second one where small letters and capitals alternate.
-/

namespace QueryGate.Text

/-- The code points `first`, `first + step`, … up to `last`, each of which maps to the code point
`offset` further on. -/
structure CaseRun where
  first : Nat
  last : Nat
  step : Nat
  offset : Int

namespace CaseRun

/-- Whether a code point belongs to the run. -/
def covers (r : CaseRun) (n : Nat) : Bool :=
  r.first ≤ n && n ≤ r.last && (n - r.first) % r.step == 0

/-- The code point that a member of the run maps to. -/
def target (r : CaseRun) (n : Nat) : Nat :=
  (n + r.offset).toNat

/-- The only code point that could map to `n`. -/
def origin (r : CaseRun) (n : Nat) : Nat :=
  (n - r.offset).toNat

/-- The image of `n` under the first run that has it, or `n` itself. -/
def mapFirst : List CaseRun → Nat → Nat
  | [], n => n
  | r :: rest, n => if r.covers n then r.target n else mapFirst rest n

/-- All members of the runs that map to `n`. -/
def origins (runs : List CaseRun) (n : Nat) : List Nat :=
  (runs.filter fun r => r.covers (r.origin n) && r.target (r.origin n) == n).map fun r => r.origin n

end CaseRun

end QueryGate.Text
