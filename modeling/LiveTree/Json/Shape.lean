import LiveTree.Json.Reader

namespace LiveTree.Json

inductive IntegerSize where
  | bits8
  | bits16
  | bits32
  | bits64
  | bits128
  | machine
  deriving DecidableEq, Repr

namespace IntegerSize

def bits : IntegerSize → Nat
  | .bits8 => 8
  | .bits16 => 16
  | .bits32 => 32
  | .bits64 | .machine => 64
  | .bits128 => 128

def name : IntegerSize → String
  | .bits8 => "8"
  | .bits16 => "16"
  | .bits32 => "32"
  | .bits64 => "64"
  | .bits128 => "128"
  | .machine => "size"

end IntegerSize

structure IntegerType where
  isSigned : Bool
  size : IntegerSize
  deriving DecidableEq, Repr

namespace IntegerType

def name (t : IntegerType) : String :=
  (if t.isSigned then "i" else "u") ++ t.size.name

def least (t : IntegerType) : Int :=
  if t.isSigned then -Int.pow 2 (t.size.bits - 1) else 0

def greatest (t : IntegerType) : Int :=
  if t.isSigned then Int.pow 2 (t.size.bits - 1) - 1 else Int.pow 2 t.size.bits - 1

/-- Whether some of the integers are none of the whole numbers of a tree. -/
def isWide (t : IntegerType) : Bool :=
  64 < t.size.bits

end IntegerType

def signed64 : IntegerType := ⟨true, .bits64⟩

def unsigned64 : IntegerType := ⟨false, .bits64⟩

def unsigned32 : IntegerType := ⟨false, .bits32⟩

def unsigned8 : IntegerType := ⟨false, .bits8⟩

inductive ScalarShape where
  | integer (t : IntegerType)
  | double
  | boolean
  | text
  | unit
  deriving DecidableEq, Repr

inductive Shape where
  | scalar (s : ScalarShape)
  | integers
  | optionalText
  | integerMap
  | any
  deriving DecidableEq, Repr

def ScalarShape.want : ScalarShape → String
  | .integer t => t.name
  | .double => "f64"
  | .boolean => "a boolean"
  | .text => "a string"
  | .unit => "unit"

def listWant : String := "a sequence"

def mapWant : String := "a map"

def misfit (got : Seen) (want : String) : Except Cause α :=
  .error (.wrongType got want)

def ScalarShape.fitNumber (s : ScalarShape) (n : Number) : Except Cause Json :=
  match s, n with
  | .integer t, .whole n =>
      if t.least ≤ n && n ≤ t.greatest then .ok (.number (.whole n))
      else .error (.wrongInteger n t.name)
  | .double, .whole n => .ok (.number (.double (Decimal.Binary64.ofInt n)))
  | .double, .double x => .ok (.number (.double x))
  | s, n => misfit (.number n) s.want

def ScalarShape.fit (s : ScalarShape) (j : Json) : Except Cause Json :=
  match s, j with
  | s, .number n => s.fitNumber n
  | .boolean, .bool b => .ok (.bool b)
  | .text, .text t => .ok (.text t)
  | .unit, .null => .ok .null
  | s, j => misfit (seen j) s.want

def fitItems (s : ScalarShape) : List Json → Except Cause (List Json)
  | [] => .ok []
  | x :: xs => do
      let y ← s.fit x
      let ys ← fitItems s xs
      .ok (y :: ys)

def fitMembers (s : ScalarShape) : Keyed Json → Except Cause (Keyed Json)
  | [] => .ok []
  | (k, x) :: xs => do
      let y ← s.fit x
      let ys ← fitMembers s xs
      .ok ((k, y) :: ys)

def Shape.fit (shape : Shape) (j : Json) : Except Cause Json :=
  match shape, j with
  | .any, j => .ok j
  | .scalar s, j => s.fit j
  | .optionalText, .null => .ok .null
  | .optionalText, j => ScalarShape.text.fit j
  | .integers, .list xs => do
      let ys ← fitItems (.integer signed64) xs
      .ok (.list ys)
  | .integers, j => misfit (seen j) listWant
  | .integerMap, .object ms => do
      let ys ← fitMembers (.integer signed64) ms
      .ok (.object ys)
  | .integerMap, j => misfit (seen j) mapWant

/-- The flaw of a value, at its first byte `b`, that begins wrongly for what is wanted. A scalar is
read first and the flaw is after it; of a list or an object nothing is read. -/
def misfitFlaw (want : String) (b : UInt8) (c : Cursor) : Flaw :=
  if b = 0x5B then c.flawHere (.wrongType .list want)
  else if b = 0x7B then c.flawHere (.wrongType .object want)
  else match readScalar b c with
    | .error f => f
    | .ok (j, c) => c.flawHere (.wrongType (seen j) want)

def fitted (r : Except Cause α) : Reader α := fun c =>
  match r with
  | .ok x => .ok (x, c)
  | .error cause => .error (c.flawHere cause)

def firstByte (c : Cursor) : Except Flaw (UInt8 × Cursor) :=
  let c := c.skipBlanks
  match c.byte? with
  | none => .error (c.flawNext .endInValue)
  | some b => .ok (b, c)

def ScalarShape.startsWith (s : ScalarShape) (b : UInt8) : Bool :=
  match s with
  | .integer _ | .double => isNumberStart b
  | .boolean => b = 0x74 || b = 0x66
  | .text => b = 0x22
  | .unit => b = 0x6E

def ScalarShape.readFitted (s : ScalarShape) : Reader Json := fun c => do
  let (b, c) ← firstByte c
  if s.startsWith b then
    let (j, c) ← readScalar b c
    fitted (s.fit j) c
  else .error (misfitFlaw s.want b c)

def IntegerType.readMagnitude (t : IntegerType) (negative : Bool) : Reader Json := fun c => do
  let (ds, c) ← readDigits c
  let n : Int := if negative then -wholeOf ds else wholeOf ds
  if t.least ≤ n && n ≤ t.greatest then .ok (.number (.whole n), c)
  else .error (c.flawHere .numberOutOfRange)

/-- An integer that is read on its own and not as the number of a tree. -/
def IntegerType.readWide (t : IntegerType) : Reader Json := fun c => do
  let (b, c) ← firstByte c
  if b = 0x2D then
    if t.isSigned then t.readMagnitude true c.next else .error (c.flawNext .numberOutOfRange)
  else t.readMagnitude false c

def ScalarShape.isWide : ScalarShape → Bool
  | .integer t => t.isWide
  | _ => false

def ScalarShape.read (s : ScalarShape) : Reader Json :=
  match s with
  | .integer t => if t.isWide then t.readWide else s.readFitted
  | s => s.readFitted

theorem ScalarShape.read_eq {s : ScalarShape} (h : s.isWide = false) : s.read = s.readFitted := by
  cases s with
  | integer t => exact if_neg (Bool.eq_false_iff.1 h)
  | double | boolean | text | unit => rfl

def Shape.read (shape : Shape) (fuel : Nat) : Reader Json :=
  match shape with
  | .any => readValue fuel depthBudget
  | .scalar s => s.read
  | .optionalText => fun c =>
      let c := c.skipBlanks
      if c.byte? = some 0x6E then literal afterN .null c else ScalarShape.text.read c
  | .integers => fun c => do
      let (b, c) ← firstByte c
      if b = 0x5B then
        let (xs, c) ←
          enter depthBudget (readItems (ScalarShape.integer signed64).read fuel true []) c
        .ok (.list xs, c)
      else .error (misfitFlaw listWant b c)
  | .integerMap => fun c => do
      let (b, c) ← firstByte c
      if b = 0x7B then
        let (ms, c) ←
          enter depthBudget (readMembers (ScalarShape.integer signed64).read fuel true []) c
        .ok (.object ms, c)
      else .error (misfitFlaw mapWant b c)

def Shape.ofBytes (shape : Shape) (bytes : List UInt8) : Except Fault Json :=
  readWhole shape.read bytes

end LiveTree.Json
