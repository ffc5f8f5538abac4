namespace LiveTree.Decimal

structure Binary64 where
  bits : UInt64
  deriving DecidableEq, Repr

namespace Binary64

def ofFloat (x : Float) : Binary64 :=
  ⟨x.toBits⟩

def toFloat (x : Binary64) : Float :=
  Float.ofBits x.bits

def ofNat (n : Nat) : Binary64 :=
  ofFloat n.toUInt64.toFloat

def ofInt (n : Int) : Binary64 :=
  if n < 0 then ofFloat (-n.natAbs.toUInt64.toFloat) else ofNat n.toNat

def neg (x : Binary64) : Binary64 :=
  ⟨x.bits ^^^ 0x8000000000000000⟩

def isNegative (x : Binary64) : Bool :=
  x.bits ≥ 0x8000000000000000

def exponentField (x : Binary64) : Nat :=
  x.bits.toNat / 0x10000000000000 % 0x800

def fractionField (x : Binary64) : Nat :=
  x.bits.toNat % 0x10000000000000

def significand (x : Binary64) : Nat :=
  if x.exponentField = 0 then x.fractionField else 0x10000000000000 + x.fractionField

def exponent (x : Binary64) : Int :=
  if x.exponentField = 0 then -1074 else (x.exponentField : Int) - 1075

def isLowerNearer (x : Binary64) : Bool :=
  x.fractionField = 0 && 1 < x.exponentField

def mostTens : Nat := 308

def tenTo (n : Nat) : Float :=
  Float.ofScientific 1 false n

/-- `x` times a power of ten in as few steps as powers up to `10 ^ 308` allow, each step rounded;
none when the result is too large. `steps` bounds the divisions by `10 ^ 308`. -/
def scaleSteps : Nat → Float → Int → Option Float
  | 0, _, _ => some 0.0
  | steps + 1, x, e =>
      if 0 ≤ e then
        if e.toNat ≤ mostTens then
          let y := x * tenTo e.toNat
          if y.isInf then none else some y
        else if x == 0.0 then some x
        else none
      else if e.natAbs ≤ mostTens then some (x / tenTo e.natAbs)
      else if x == 0.0 then some x
      else scaleSteps steps (x / tenTo mostTens) (e + mostTens)

/-- Two divisions by `10 ^ 308` take every whole number below 2^64 to zero or leave an exponent
within the table, so the bound is never reached. -/
def scale (n : Nat) (e : Int) : Option Binary64 :=
  (scaleSteps 4 n.toUInt64.toFloat e).map ofFloat

end Binary64

end LiveTree.Decimal
