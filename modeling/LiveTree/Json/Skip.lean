import LiveTree.Json.NumberReader
import LiveTree.Json.TextReader

namespace LiveTree.Json

inductive Frame where
  | list
  | object
  deriving DecidableEq, Repr

def Frame.opening? (b : UInt8) : Option Frame :=
  if b = 0x5B then some .list else if b = 0x7B then some .object else none

def Frame.closer : Frame → UInt8
  | .list => 0x5D
  | .object => 0x7D

def Frame.markExpected : Frame → Cause
  | .list => .listMarkExpected
  | .object => .objectMarkExpected

def Frame.endCause : Frame → Cause
  | .list => .endInList
  | .object => .endInObject

def skipLiteral (rest : List UInt8) (c : Cursor) : Except Flaw Cursor := do
  let ((), c) ← readLiteral rest c.next
  .ok c

def skipScalar (b : UInt8) (c : Cursor) : Except Flaw Cursor :=
  if b = 0x6E then skipLiteral afterN c
  else if b = 0x74 then skipLiteral afterT c
  else if b = 0x66 then skipLiteral afterF c
  else if isNumberStart b then skipNumber c
  else if b = 0x22 then skipTextFrom c.next.rest c.next.passed .plain
  else .error (c.flawNext .valueExpected)

def skipKey (c : Cursor) : Except Flaw Cursor := do
  let c := c.skipBlanks
  match c.byte? with
  | none => .error (c.flawNext .endInObject)
  | some b =>
      if b = 0x22 then do
        let c ← skipTextFrom c.next.rest c.next.passed .plain
        let ((), c) ← readColon c
        .ok c
      else .error (c.flawNext .keyNotText)

/-- Where in a value the reading stands: before one, or behind one (or behind an opening bracket,
when `comma` is false) inside the frames still open. -/
inductive SkipPoint where
  | before (frames : List Frame)
  | behind (comma : Bool) (frame : Frame) (outer : List Frame)

def SkipPoint.leave : List Frame → Option SkipPoint
  | [] => none
  | f :: outer => some (.behind true f outer)

def Frame.beginItem (f : Frame) (c : Cursor) : Except Flaw Cursor :=
  match f with
  | .list => .ok c
  | .object => skipKey c

def SkipPoint.step : SkipPoint → Cursor → Except Flaw (Option SkipPoint × Cursor)
  | .before frames, c => do
      let c := c.skipBlanks
      match c.byte? with
      | none => .error (c.flawNext .endInValue)
      | some b =>
          match Frame.opening? b with
          | some f => .ok (some (.behind false f frames), c.next)
          | none => do
              let c ← skipScalar b c
              .ok (SkipPoint.leave frames, c)
  | .behind comma f outer, c => do
      let c := c.skipBlanks
      match c.byte? with
      | none => .error (c.flawNext f.endCause)
      | some b =>
          if b = 0x2C && comma then do
            let c ← f.beginItem c.next
            .ok (some (.before (f :: outer)), c)
          else if b = f.closer then .ok (SkipPoint.leave outer, c.next)
          else if comma then .error (c.flawNext f.markExpected)
          else do
            let c ← f.beginItem c
            .ok (some (.before (f :: outer)), c)

/-- Steps until the value is passed. Every other step takes a byte, so twice the length of the text
bounds their number. -/
def skipFrom : Nat → SkipPoint → Cursor → Except Flaw Cursor
  | 0, _, c => .error (c.flawNext .endInValue)
  | fuel + 1, p, c => do
      match ← p.step c with
      | (none, c) => .ok c
      | (some p, c) => skipFrom fuel p c

def skipValue (fuel : Nat) (c : Cursor) : Except Flaw Cursor :=
  skipFrom (2 * fuel) (.before []) c

end LiveTree.Json
