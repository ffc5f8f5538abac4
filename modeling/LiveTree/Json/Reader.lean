import LiveTree.Json.NumberReader
import LiveTree.Json.TextReader

namespace LiveTree.Json

def depthBudget : Nat := 128

variable {α : Type}

def readItems (item : Reader α) : Nat → Bool → List α → Reader (List α)
  | 0, _, _, c => .error (c.flawNext .endInList)
  | fuel + 1, first, out, c => do
      let (more, c) ← anotherItem first c
      if more then
        let (x, c) ← item c
        readItems item fuel false (x :: out) c
      else .ok (out.reverse, c.next)

/-- The members of an object whose opening brace has been read. The last of two members with one
key counts. -/
def readMembers (item : Reader α) : Nat → Bool → Keyed α → Reader (Keyed α)
  | 0, _, _, c => .error (c.flawNext .endInObject)
  | fuel + 1, first, out, c => do
      let (more, c) ← anotherMember first c
      if more then
        let (key, c) ← readText c.next
        let ((), c) ← readColon c
        let (x, c) ← item c
        readMembers item fuel false (out.insert key x) c
      else .ok (out, c.next)

def literal (rest : List UInt8) (j : Json) : Reader Json := fun c => do
  let ((), c) ← readLiteral rest c.next
  .ok (j, c)

def readScalar (b : UInt8) : Reader Json := fun c =>
  if b = 0x6E then literal afterN .null c
  else if b = 0x74 then literal afterT (.bool true) c
  else if b = 0x66 then literal afterF (.bool false) c
  else if isNumberStart b then do
    let (n, c) ← readNumber c
    .ok (.number n, c)
  else if b = 0x22 then do
    let (s, c) ← readText c.next
    .ok (.text s, c)
  else .error (c.flawNext .valueExpected)

def enter (depth : Nat) (inside : Reader α) : Reader α := fun c =>
  if depth ≤ 1 then .error (c.flawNext .tooDeep) else inside c.next

def readValue (fuel : Nat) : Nat → Reader Json
  | depth, c =>
      let c := c.skipBlanks
      match c.byte? with
      | none => .error (c.flawNext .endInValue)
      | some b =>
          match depth with
          | 0 => if b = 0x5B || b = 0x7B then .error (c.flawNext .tooDeep) else readScalar b c
          | depth + 1 =>
              if b = 0x5B then do
                let (xs, c) ← enter (depth + 1) (readItems (readValue fuel depth) fuel true []) c
                .ok (.list xs, c)
              else if b = 0x7B then do
                let (ms, c) ← enter (depth + 1) (readMembers (readValue fuel depth) fuel true []) c
                .ok (.object ms, c)
              else readScalar b c

def fuelFor (bytes : List UInt8) : Nat :=
  bytes.length + 1

def readWhole (reader : Nat → Reader α) (bytes : List UInt8) : Except Fault α :=
  match reader (fuelFor bytes) (Cursor.start bytes) with
  | .error f => .error (f.locate bytes)
  | .ok (x, c) =>
      match readEnd c with
      | .error f => .error (f.locate bytes)
      | .ok () => .ok x

def ofBytes (bytes : List UInt8) : Except Fault Json :=
  readWhole (fun fuel => readValue fuel depthBudget) bytes

def ofString (s : String) : Except Fault Json :=
  ofBytes (Text.Utf8.encode s.toList)

end LiveTree.Json
