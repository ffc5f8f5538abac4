import LiveTree.Json.Fault

namespace LiveTree.Json

structure Cursor where
  rest : List UInt8
  passed : Nat

abbrev Reader (α : Type) := Cursor → Except Flaw (α × Cursor)

namespace Cursor

def start (bytes : List UInt8) : Cursor :=
  ⟨bytes, 0⟩

def next (c : Cursor) : Cursor :=
  match c.rest with
  | [] => c
  | _ :: rest => ⟨rest, c.passed + 1⟩

def flawHere (c : Cursor) (cause : Cause) : Flaw :=
  ⟨cause, c.passed⟩

def flawNext (c : Cursor) (cause : Cause) : Flaw :=
  ⟨cause, if c.rest.isEmpty then c.passed else c.passed + 1⟩

def isBlank (b : UInt8) : Bool :=
  b = 0x20 || b = 0x0A || b = 0x09 || b = 0x0D

def skipBlanksFrom : List UInt8 → Nat → Cursor
  | [], passed => ⟨[], passed⟩
  | b :: rest, passed => if isBlank b then skipBlanksFrom rest (passed + 1) else ⟨b :: rest, passed⟩

def skipBlanks (c : Cursor) : Cursor :=
  skipBlanksFrom c.rest c.passed

def byte? (c : Cursor) : Option UInt8 :=
  c.rest.head?

end Cursor

def readLiteral : List UInt8 → Reader Unit
  | [], c => .ok ((), c)
  | want :: more, c =>
      match c.rest with
      | [] => .error (c.flawHere .endInValue)
      | b :: _ => if b = want then readLiteral more c.next else .error (c.flawNext .literalExpected)

def afterN : List UInt8 := [0x75, 0x6C, 0x6C]

def afterT : List UInt8 := [0x72, 0x75, 0x65]

def afterF : List UInt8 := [0x61, 0x6C, 0x73, 0x65]

/-- Whether another item follows; the cursor is then at its first byte, and else at the closing
bracket. No comma stands before the first item and one before every other. -/
def anotherItem (first : Bool) (c : Cursor) : Except Flaw (Bool × Cursor) :=
  let c := c.skipBlanks
  match c.byte? with
  | none => .error (c.flawNext .endInList)
  | some b =>
      if b = 0x5D then .ok (false, c)
      else if first then .ok (true, c)
      else if b = 0x2C then
        let c := c.next.skipBlanks
        match c.byte? with
        | none => .error (c.flawNext .endInValue)
        | some b => if b = 0x5D then .error (c.flawNext .trailingComma) else .ok (true, c)
      else .error (c.flawNext .listMarkExpected)

/-- Whether another member follows; the cursor is then at the quote of its key, and else at the
closing brace. -/
def anotherMember (first : Bool) (c : Cursor) : Except Flaw (Bool × Cursor) :=
  let c := c.skipBlanks
  match c.byte? with
  | none => .error (c.flawNext .endInObject)
  | some b =>
      if b = 0x7D then .ok (false, c)
      else if first then
        if b = 0x22 then .ok (true, c) else .error (c.flawNext .keyNotText)
      else if b = 0x2C then
        let c := c.next.skipBlanks
        match c.byte? with
        | none => .error (c.flawNext .endInValue)
        | some b =>
            if b = 0x22 then .ok (true, c)
            else if b = 0x7D then .error (c.flawNext .trailingComma)
            else .error (c.flawNext .keyNotText)
      else .error (c.flawNext .objectMarkExpected)

def readColon : Reader Unit := fun c =>
  let c := c.skipBlanks
  match c.byte? with
  | none => .error (c.flawNext .endInObject)
  | some b => if b = 0x3A then .ok ((), c.next) else .error (c.flawNext .colonExpected)

def readEnd (c : Cursor) : Except Flaw Unit :=
  let c := c.skipBlanks
  if c.rest.isEmpty then .ok () else .error (c.flawNext .trailingCharacters)

end LiveTree.Json
