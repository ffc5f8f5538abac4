import LiveTree.Decimal.Shortest

namespace LiveTree.Decimal

structure Layout where
  least : Int
  most : Int

def Digits.positional (d : Digits) : List Char :=
  if 0 ≤ d.exponent then
    let whole := d.exponent.toNat + 1
    let fraction := d.digits.drop whole
    d.digits.take whole ++ List.replicate (whole - d.digits.length) '0'
      ++ '.' :: (if fraction = [] then ['0'] else fraction)
  else '0' :: '.' :: (List.replicate (d.exponent.natAbs - 1) '0' ++ d.digits)

/-- One digit before the point, no point when there is but one digit, and a signed exponent. -/
def Digits.scientific (d : Digits) : List Char :=
  let mantissa := match d.digits with
    | c :: e :: rest => c :: '.' :: e :: rest
    | ds => ds
  mantissa ++ 'e' :: (if d.exponent < 0 then '-' else '+') :: Nat.toDigits 10 d.exponent.natAbs

def Digits.layOut (d : Digits) (l : Layout) : List Char :=
  if l.least ≤ d.exponent && d.exponent ≤ l.most then d.positional else d.scientific

def Binary64.layOut (x : Binary64) (l : Layout) : List Char :=
  let magnitude := if x.significand = 0 then ['0', '.', '0'] else (shortest x).layOut l
  if x.isNegative then '-' :: magnitude else magnitude

end LiveTree.Decimal
