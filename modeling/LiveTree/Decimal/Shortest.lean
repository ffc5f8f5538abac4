import LiveTree.Decimal.Binary64

namespace LiveTree.Decimal

/-- A positive decimal: a digit string without zeros at its end, and the exponent of ten of its
first digit. -/
structure Digits where
  digits : List Char
  exponent : Int
  deriving DecidableEq, Repr

/-- A positive rational value with the bounds of its interval, all over one denominator. -/
structure Interval where
  low : Nat
  value : Nat
  high : Nat
  denominator : Nat
  closed : Bool
  deriving DecidableEq, Repr

def Interval.ofBinary64 (x : Binary64) : Interval :=
  let m := x.significand
  let q := x.exponent - 2
  let scale := if 0 ≤ q then Nat.pow 2 q.toNat else 1
  ⟨(4 * m - if x.isLowerNearer then 1 else 2) * scale, 4 * m * scale, (4 * m + 2) * scale,
   if 0 ≤ q then 1 else Nat.pow 2 q.natAbs, m % 2 = 0⟩

def digitCount (n : Nat) : Nat :=
  (Nat.toDigits 10 n).length

def Interval.tens (i : Interval) : Int :=
  if i.denominator ≤ i.value then (digitCount (i.value / i.denominator) : Int) - 1
  else -(digitCount ((i.denominator + i.value - 1) / i.value - 1) : Int)

def gridFactors (t : Int) : Nat × Nat :=
  if 0 ≤ t then (1, Nat.pow 10 t.toNat) else (Nat.pow 10 t.natAbs, 1)

def Interval.holds (i : Interval) (t : Int) (c : Nat) : Bool :=
  let (up, down) := gridFactors t
  let point := c * down * i.denominator
  if i.closed then i.low * up ≤ point && point ≤ i.high * up
  else i.low * up < point && point < i.high * up

/-- The grid point that stands for the value on the grid of spacing `10 ^ t`: of its two
neighbours the one in the interval, of two the nearer, and of two as near the even one. -/
def Interval.pointOn (i : Interval) (t : Int) : Option Nat :=
  let (up, down) := gridFactors t
  let unit := i.denominator * down
  let c := i.value * up / unit
  let rest := i.value * up % unit
  match i.holds t c, i.holds t (c + 1) with
  | true, true =>
      some (if 2 * rest < unit then c
        else if unit < 2 * rest then c + 1
        else if c % 2 = 0 then c else c + 1)
  | true, false => some c
  | false, true => some (c + 1)
  | false, false => none

def Digits.ofGrid (c : Nat) (t : Int) : Digits :=
  let ds := Nat.toDigits 10 c
  ⟨(ds.reverse.dropWhile (· = '0')).reverse, t + ds.length - 1⟩

def Interval.search (i : Interval) (k : Int) : Nat → Nat → Digits
  | count, 0 => Digits.ofGrid (i.value / i.denominator) (k - count + 1)
  | count, more + 1 =>
      match i.pointOn (k - count + 1) with
      | some c => Digits.ofGrid c (k - count + 1)
      | none => i.search k (count + 1) more

def shortest (x : Binary64) : Digits :=
  let i := Interval.ofBinary64 x
  i.search i.tens 1 17

end LiveTree.Decimal
