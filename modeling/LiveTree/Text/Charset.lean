import LiveTree.Text.Utf8

namespace LiveTree.Text

namespace Utf16

def units (isBig : Bool) : List UInt8 → List Nat × Bool
  | [] => ([], false)
  | [_] => ([], true)
  | a :: b :: rest =>
      let unit := if isBig then a.toNat * 0x100 + b.toNat else b.toNat * 0x100 + a.toNat
      let (more, isCut) := units isBig rest
      (unit :: more, isCut)

def isLead (unit : Nat) : Bool :=
  0xD800 ≤ unit && unit < 0xDC00

def isTrail (unit : Nat) : Bool :=
  0xDC00 ≤ unit && unit < 0xE000

def joined (lead trail : Nat) : Char :=
  Char.ofNat (0x10000 + (lead - 0xD800) * 0x400 + (trail - 0xDC00))

/-- A surrogate without its partner is read as one replacement character; at the end of the text it
takes a left over byte with it. -/
def characters (isCut : Bool) : List Nat → List Char
  | [] => if isCut then ['\uFFFD'] else []
  | [unit] =>
      if isLead unit then ['\uFFFD']
      else (if isTrail unit then '\uFFFD' else Char.ofNat unit) :: characters isCut []
  | unit :: next :: rest =>
      if isLead unit && isTrail next then joined unit next :: characters isCut rest
      else (if isLead unit || isTrail unit then '\uFFFD' else Char.ofNat unit) ::
        characters isCut (next :: rest)

def decodeLossy (isBig : Bool) (bytes : List UInt8) : List Char :=
  let (units, isCut) := units isBig bytes
  characters isCut units

end Utf16

/-- How a text is meant to be read. All charsets but those of Unicode come with a reader of their
own. -/
inductive Charset where
  | utf8
  | utf16 (isBig : Bool)
  | other (decode : List UInt8 → List Char)

namespace Charset

def decode : Charset → List UInt8 → List Char
  | .utf8 => Utf8.decodeLossy
  | .utf16 isBig => Utf16.decodeLossy isBig
  | .other decode => decode

def marked? : List UInt8 → Option (Charset × List UInt8)
  | 0xEF :: 0xBB :: 0xBF :: rest => some (.utf8, rest)
  | 0xFE :: 0xFF :: rest => some (.utf16 true, rest)
  | 0xFF :: 0xFE :: rest => some (.utf16 false, rest)
  | _ => none

/-- A mark at the start of a text goes before what its charset is said to be. -/
def read (c : Charset) (bytes : List UInt8) : List Char :=
  match marked? bytes with
  | some (marked, rest) => marked.decode rest
  | none => c.decode bytes

end Charset

end LiveTree.Text
