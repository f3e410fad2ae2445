/-!
# Shortest decimal texts of binary64 numbers

A binary64 number is written with the fewest decimal digits that still read back as the same
number. The number is decoded into `m · 2 ^ q`, which gives the interval of reals that round to it;
for one digit, two digits and so on the two neighbours of the number on that decimal grid are
tested in exact arithmetic, and the first grid with a neighbour in the interval wins.

## Main definitions

* `Binary64` — a finite magnitude `m · 2 ^ q`
* `Binary64.shortest` — the digits and the place of the decimal point
* `isLess` — how a number compares with a whole one
* `Layout` — where positional notation ends and how an exponent is written
* `Layout.render` — the text of a number
-/

namespace QueryGate.Decimal

/-- A positive magnitude `m · 2 ^ q`, as stored in 53 bits. -/
structure Binary64 where
  m : Nat
  q : Int
  deriving Repr, DecidableEq

/-- A decimal `digits · 10 ^ exponent`. -/
structure Digits where
  digits : Nat
  exponent : Int
  deriving Repr, DecidableEq

namespace Binary64

/-- Decodes the bits of a finite number, sign left aside. -/
def ofBits (bits : Nat) : Binary64 :=
  let fraction := bits % Nat.pow 2 52
  let exponent := bits / Nat.pow 2 52 % Nat.pow 2 11
  if exponent = 0 then ⟨fraction, -1074⟩ else ⟨fraction + Nat.pow 2 52, Int.ofNat exponent - 1075⟩

/-- The whole number `n · 2 ^ e`, rounded down. -/
def shift (n : Nat) (e : Int) : Nat :=
  if 0 ≤ e then n * Nat.pow 2 e.toNat else n / Nat.pow 2 (-e).toNat

/-- Whether the number is below a whole one. -/
def isBelow (x : Binary64) (n : Nat) : Bool :=
  x.m * Nat.pow 2 x.q.toNat < n * Nat.pow 2 (-x.q).toNat

/-- The distance from the number down to the edge of its rounding interval, in quarters of
`2 ^ q`. It is halved where the numbers below stand closer together. -/
def lowerGap (x : Binary64) : Nat :=
  if x.m = Nat.pow 2 52 ∧ -1074 < x.q then 1 else 2

/-- How `d · 10 ^ k` compares with `n · 2 ^ (q - 2)`. -/
def compareWith (x : Binary64) (d : Nat) (k : Int) (n : Nat) : Ordering :=
  let e := x.q - 2
  compare (d * Nat.pow 10 k.toNat * Nat.pow 2 (-e).toNat)
    (n * Nat.pow 2 e.toNat * Nat.pow 10 (-k).toNat)

/-- Whether `d · 10 ^ k` reads back as the number. An end of the interval belongs to it when `m` is
even. -/
def readsBack (x : Binary64) (k : Int) (d : Nat) : Bool :=
  let even := x.m % 2 = 0
  let above := x.compareWith d k (4 * x.m - x.lowerGap)
  let below := x.compareWith d k (4 * x.m + 2)
  (above = .gt ∨ (even ∧ above = .eq)) ∧ (below = .lt ∨ (even ∧ below = .eq))

/-- The place of the first digit: the greatest `e` such that the number is at least `10 ^ e`. The
scale makes every positive number large. -/
def firstPlace (x : Binary64) : Int :=
  (Nat.toDigits 10 (shift (x.m * Nat.pow 10 400) x.q)).length - 401

/-- The multiple of `10 ^ k` below the number, as a count. -/
def floorAt (x : Binary64) (k : Int) : Nat :=
  shift (x.m * Nat.pow 10 (-k).toNat) x.q / Nat.pow 10 k.toNat

/-- The neighbour on the grid of multiples of `10 ^ k` that reads back; of two the nearer, and of
two equally near the even one. -/
def neighbour? (x : Binary64) (k : Int) : Option Nat :=
  let d := x.floorAt k
  match x.readsBack k d, x.readsBack k (d + 1) with
  | true, false => some d
  | false, true => some (d + 1)
  | false, false => none
  | true, true =>
    match x.compareWith (2 * d + 1) k (8 * x.m) with
    | .lt => some (d + 1)
    | .gt => some d
    | .eq => some (if d % 2 = 0 then d else d + 1)

/-- The first of the grids from `10 ^ k` downwards on which a neighbour reads back. -/
def firstGrid (x : Binary64) : Nat → Int → Digits
  | 0, k => ⟨x.floorAt k, k⟩
  | n + 1, k =>
    match x.neighbour? k with
    | some d => ⟨d, k⟩
    | none => x.firstGrid n (k - 1)

/-- The shortest decimal that reads back as the number. Seventeen digits always do. -/
def shortest (x : Binary64) : Digits :=
  x.firstGrid 17 x.firstPlace

end Binary64

/-- Whether a binary64 number is less than a whole one. The comparison is exact; infinity is less
than none, and neither is what is not a number. -/
def isLess (x : Float) (n : Nat) : Bool :=
  let magnitude := Binary64.ofBits x.toBits.toNat
  if x.isNaN then false
  else if x.toBits.toNat / Nat.pow 2 63 = 1 then magnitude.m != 0 || 0 < n
  else !x.isInf && magnitude.isBelow n

/-- How numbers are laid out: positional where the first digit stands at a place from `lowest` up
to, and without, `tooHigh`; otherwise with an exponent of at least `exponentWidth` digits. -/
structure Layout where
  lowest : Int
  tooHigh : Int
  exponentWidth : Nat

/-- The significant digits of a decimal, without the zeros at their end. -/
def Digits.significant (x : Digits) : List Char :=
  ((Nat.toDigits 10 x.digits).reverse.dropWhile (· == '0')).reverse

/-- The place of the first digit of a decimal. -/
def Digits.firstPlace (x : Digits) : Int :=
  (Nat.toDigits 10 x.digits).length - 1 + x.exponent

namespace Layout

/-- A number with its decimal point in place; at least one digit stands on either side of it. -/
def positional (digits : List Char) (place : Int) : List Char :=
  if place < 0 then
    '0' :: '.' :: List.replicate (-place - 1).toNat '0' ++ digits
  else
    let whole := place.toNat + 1
    let padded := digits ++ List.replicate (whole - digits.length) '0'
    let fraction := padded.drop whole
    padded.take whole ++ '.' :: (if fraction.isEmpty then ['0'] else fraction)

/-- A number with one digit before the point and an exponent. -/
def scientific (l : Layout) (digits : List Char) (place : Int) : List Char :=
  let fraction := digits.drop 1
  let exponent := Nat.toDigits 10 place.natAbs
  digits.take 1 ++ (if fraction.isEmpty then [] else '.' :: fraction) ++
    ['e', if place < 0 then '-' else '+'] ++
    List.replicate (l.exponentWidth - exponent.length) '0' ++ exponent

/-- The text of a binary64 number. -/
def render (l : Layout) (x : Float) : List Char :=
  let bits := x.toBits.toNat
  let sign := if bits / Nat.pow 2 63 = 1 then ['-'] else []
  if x.isNaN then "nan".toList
  else if x.isInf then sign ++ "inf".toList
  else
    let magnitude := Binary64.ofBits bits
    if magnitude.m = 0 then sign ++ "0.0".toList
    else
      let decimal := magnitude.shortest
      let place := decimal.firstPlace
      sign ++
        if l.lowest ≤ place ∧ place < l.tooHigh then positional decimal.significant place
        else l.scientific decimal.significant place

end Layout

end QueryGate.Decimal
