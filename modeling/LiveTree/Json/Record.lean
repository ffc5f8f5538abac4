import LiveTree.Json.Shape
import LiveTree.Json.Skip

namespace LiveTree.Json

/-- One field of a record under construction `σ`: how it is read, and whether it has been. -/
structure Field (σ : Type) where
  name : String
  isSet : σ → Bool
  read : σ → Reader σ

/-- The fields of a record, what a type error calls it, and how it is completed. -/
structure Record (σ α : Type) where
  want : String
  start : σ
  fields : Nat → List (Field σ)
  finish : σ → Except Cause α

/-- Where reading stands after an attempt to close a list. A flaw that the record itself finds in
a list is reported there. -/
def afterList (c : Cursor) : Cursor :=
  let c := c.skipBlanks
  match c.byte? with
  | some b =>
      if b = 0x5D then c.next
      else if b = 0x2C then c.next.skipBlanks
      else c
  | none => c

def afterObject (c : Cursor) : Cursor :=
  let c := c.skipBlanks
  if c.byte? = some 0x7D then c.next else c

def closeList (c : Cursor) : Except Flaw Cursor :=
  let c := c.skipBlanks
  match c.byte? with
  | none => .error (c.flawNext .endInList)
  | some b =>
      if b = 0x5D then .ok c.next
      else if b = 0x2C then
        let c := c.next.skipBlanks
        if c.byte? = some 0x5D then .error (c.flawNext .trailingComma)
        else .error (c.flawNext .trailingCharacters)
      else .error (c.flawNext .trailingCharacters)

variable {σ α : Type}

def lengthWant (want : String) (count : Nat) : String :=
  want ++ " with " ++ toString count ++ (if count = 1 then " element" else " elements")

def readFieldsInOrder (want : String) (count : Nat) : List (Field σ) → Nat → σ → Reader σ
  | [], _, s, c => do
      let c ← closeList c
      .ok (s, c)
  | f :: more, index, s, c => do
      let (another, c) ← anotherItem (index = 0) c
      if another then
        let (s, c) ← f.read s c
        readFieldsInOrder want count more (index + 1) s c
      else .error ((afterList c).flawHere (.wrongLength index (lengthWant want count)))

def readFieldsByName (r : Record σ α) (bound : Nat) : Nat → Bool → σ → Reader α
  | 0, _, _, c => .error (c.flawNext .endInObject)
  | fuel + 1, first, s, c => do
      let (another, c) ← anotherMember first c
      if another then
        let (key, c) ← readText c.next
        match (r.fields bound).find? (·.name = key) with
        | some f =>
            if f.isSet s then .error ((afterObject c).flawHere (.repeatedField key))
            else
              let ((), c) ← readColon c
              let (s, c) ← f.read s c
              readFieldsByName r bound fuel false s c
        | none =>
            let ((), c) ← readColon c
            let c ← skipValue bound c
            readFieldsByName r bound fuel false s c
      else fitted (r.finish s) c.next

def Record.read (r : Record σ α) (fuel : Nat) : Reader α := fun c => do
  let (b, c) ← firstByte c
  if b = 0x5B then
    let fields := r.fields fuel
    let (s, c) ← enter depthBudget (readFieldsInOrder r.want fields.length fields 0 r.start) c
    fitted (r.finish s) c
  else if b = 0x7B then
    enter depthBudget (readFieldsByName r fuel fuel true r.start) c
  else .error (misfitFlaw r.want b c)

def Record.ofBytes (r : Record σ α) (bytes : List UInt8) : Except Fault α :=
  readWhole r.read bytes

end LiveTree.Json
