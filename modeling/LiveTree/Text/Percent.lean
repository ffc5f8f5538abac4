import LiveTree.Text.Utf8

namespace LiveTree.Text.Percent

def upperDigit (n : Nat) : Char :=
  if n < 10 then Char.ofNat (0x30 + n) else Char.ofNat (0x37 + n)

def triple (b : UInt8) : List Char :=
  ['%', upperDigit (b.toNat / 16), upperDigit (b.toNat % 16)]

/-- Writes the bytes of the characters that `p` singles out as triples and the others as they
are. -/
def encode (p : Char → Bool) (cs : List Char) : List Char :=
  cs.flatMap fun c => if p c then (String.utf8EncodeChar c).flatMap triple else [c]

def digitValue? (b : UInt8) : Option Nat :=
  if 0x30 ≤ b && b ≤ 0x39 then some (b.toNat - 0x30)
  else if 0x41 ≤ b && b ≤ 0x46 then some (b.toNat - 0x37)
  else if 0x61 ≤ b && b ≤ 0x66 then some (b.toNat - 0x57)
  else none

def decodeFrom : List UInt8 → List UInt8 → List UInt8
  | [], out => out.reverse
  | b :: h :: l :: rest, out =>
      if b = 0x25 then
        match digitValue? h, digitValue? l with
        | some x, some y => decodeFrom rest (UInt8.ofNat (x * 16 + y) :: out)
        | _, _ => decodeFrom (h :: l :: rest) (b :: out)
      else decodeFrom (h :: l :: rest) (b :: out)
  | b :: rest, out => decodeFrom rest (b :: out)

def decode (bytes : List UInt8) : List UInt8 :=
  decodeFrom bytes []

end LiveTree.Text.Percent
