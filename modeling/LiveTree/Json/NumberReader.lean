import LiveTree.Json.Cursor

namespace LiveTree.Json

def isDigit (b : UInt8) : Bool :=
  0x30 ≤ b && b ≤ 0x39

def isNumberStart (b : UInt8) : Bool :=
  b = 0x2D || isDigit b

def spanDigits : List UInt8 → Nat → List Nat → List Nat × Cursor
  | [], passed, out => (out.reverse, ⟨[], passed⟩)
  | b :: rest, passed, out =>
      if isDigit b then spanDigits rest (passed + 1) ((b.toNat - 0x30) :: out)
      else (out.reverse, ⟨b :: rest, passed⟩)

def Cursor.digits (c : Cursor) : List Nat × Cursor :=
  spanDigits c.rest c.passed []

/-- A decimal `significand * 10 ^ tens` under construction; once `full`, digits no longer enter. -/
structure Gathered where
  significand : Nat
  tens : Int
  full : Bool
  deriving DecidableEq, Repr

def Gathered.fits (g : Gathered) (d : Nat) : Bool :=
  !g.full && g.significand * 10 + d < 0x10000000000000000

def Gathered.pushWhole (g : Gathered) (d : Nat) : Gathered :=
  if g.fits d then ⟨g.significand * 10 + d, g.tens, false⟩ else ⟨g.significand, g.tens + 1, true⟩

def Gathered.pushFraction (g : Gathered) (d : Nat) : Gathered :=
  if g.fits d then ⟨g.significand * 10 + d, g.tens - 1, false⟩ else ⟨g.significand, g.tens, true⟩

def Gathered.ofWhole (ds : List Nat) : Gathered :=
  ds.foldl Gathered.pushWhole ⟨0, 0, false⟩

def Gathered.withFraction (g : Gathered) (ds : List Nat) : Gathered :=
  ds.foldl Gathered.pushFraction ⟨g.significand, g.tens, false⟩

def signed (negative : Bool) (x : Decimal.Binary64) : Number :=
  .double (if negative then x.neg else x)

def finishDouble (negative : Bool) (g : Gathered) : Reader Number := fun c =>
  match Decimal.Binary64.scale g.significand g.tens with
  | some x => .ok (signed negative x, c)
  | none => .error (c.flawHere .numberOutOfRange)

/-- The exponent that digits write, and how many digits it took to pass 2^31 - 1 if they did. -/
def exponentOf : List Nat → Nat → Nat → Nat × Option Nat
  | [], _, e => (e, none)
  | d :: ds, count, e =>
      if e * 10 + d < 0x80000000 then exponentOf ds (count + 1) (e * 10 + d)
      else (e, some (count + 1))

/-- The digits of an exponent, from the first one on. An exponent beyond 2^31 is out of range if it
is positive and the significand is not zero, and else makes a zero. -/
def readExponentDigits (negative : Bool) (g : Gathered) (down : Bool) : Reader Number := fun c =>
  let (ds, after) := c.digits
  match exponentOf ds 0 0 with
  | (e, none) =>
      finishDouble negative { g with tens := if down then g.tens - e else g.tens + e } after
  | (_, some count) =>
      if g.significand ≠ 0 && !down then .error ⟨.numberOutOfRange, c.passed + count⟩
      else .ok (signed negative (Decimal.Binary64.ofNat 0), after)

def readExponent (negative : Bool) (g : Gathered) : Reader Number := fun c =>
  let down := c.byte? = some 0x2D
  let c := if c.byte? = some 0x2B || c.byte? = some 0x2D then c.next else c
  match c.byte? with
  | none => .error (c.flawHere .endInValue)
  | some b =>
      if isDigit b then readExponentDigits negative g down c
      else .error (c.flawNext .invalidNumber)

def isExponentLetter (b : UInt8) : Bool :=
  b = 0x65 || b = 0x45

def readFraction (negative : Bool) (g : Gathered) : Reader Number := fun c =>
  match c.digits with
  | ([], _) =>
      .error (c.flawNext (if c.rest.isEmpty then .endInValue else .invalidNumber))
  | (ds, after) =>
      let g := g.withFraction ds
      match after.byte? with
      | some b =>
          if isExponentLetter b then readExponent negative g after.next
          else finishDouble negative g after
      | none => finishDouble negative g after

/-- A number without point and exponent: a whole number where 64 bits hold it, and else a double,
as minus zero is. -/
def finishWhole (negative : Bool) (g : Gathered) : Reader Number := fun c =>
  if g.full then finishDouble negative g c
  else if negative then
    if 0 < g.significand && g.significand ≤ 0x8000000000000000 then .ok (.whole (-g.significand), c)
    else .ok (signed true (Decimal.Binary64.ofNat g.significand), c)
  else .ok (.whole g.significand, c)

def readAfterWhole (negative : Bool) (g : Gathered) : Reader Number := fun c =>
  match c.byte? with
  | some b =>
      if b = 0x2E then readFraction negative g c.next
      else if isExponentLetter b then readExponent negative g c.next
      else finishWhole negative g c
  | none => finishWhole negative g c

/-- A number whose sign, if it has one, has been read. No digit may follow a leading zero. -/
def readUnsigned (negative : Bool) : Reader Number := fun c =>
  match c.byte? with
  | none => .error (c.flawHere .endInValue)
  | some b =>
      if b = 0x30 then
        let after := c.next
        match after.byte? with
        | some d =>
            if isDigit d then .error (after.flawNext .invalidNumber)
            else readAfterWhole negative ⟨0, 0, false⟩ after
        | none => readAfterWhole negative ⟨0, 0, false⟩ after
      else if isDigit b then
        let (ds, after) := c.digits
        readAfterWhole negative (Gathered.ofWhole ds) after
      else .error (c.flawNext .invalidNumber)

def readNumber : Reader Number := fun c =>
  if c.byte? = some 0x2D then readUnsigned true c.next else readUnsigned false c

/-- The digits of a whole number of any size. No digit may follow a leading zero. -/
def readDigits : Reader (List Nat) := fun c =>
  match c.byte? with
  | none => .error (c.flawHere .invalidNumber)
  | some b =>
      if b = 0x30 then
        if c.next.byte?.any isDigit then .error (c.next.flawNext .invalidNumber)
        else .ok ([0], c.next)
      else if isDigit b then .ok c.digits
      else .error (c.flawNext .invalidNumber)

def wholeOf (ds : List Nat) : Nat :=
  ds.foldl (fun n d => n * 10 + d) 0

def skipExponent (c : Cursor) : Except Flaw Cursor :=
  let c := if c.byte? = some 0x2B || c.byte? = some 0x2D then c.next else c
  match c.digits with
  | ([], _) => .error (c.flawNext .invalidNumber)
  | (_, after) => .ok after

def skipAfterWhole (c : Cursor) : Except Flaw Cursor :=
  match c.byte? with
  | some b =>
      if b = 0x2E then
        match c.next.digits with
        | ([], _) => .error (c.next.flawNext .invalidNumber)
        | (_, after) =>
            if after.byte?.any isExponentLetter then skipExponent after.next else .ok after
      else if isExponentLetter b then skipExponent c.next
      else .ok c
  | none => .ok c

def skipNumber (c : Cursor) : Except Flaw Cursor :=
  let c := if c.byte? = some 0x2D then c.next else c
  match c.byte? with
  | none => .error (c.flawHere .invalidNumber)
  | some b =>
      if b = 0x30 then
        if c.next.byte?.any isDigit then .error (c.next.flawNext .invalidNumber)
        else skipAfterWhole c.next
      else if isDigit b then skipAfterWhole c.digits.2
      else .error (c.flawNext .invalidNumber)

end LiveTree.Json
