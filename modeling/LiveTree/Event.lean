import LiveTree.Change

namespace LiveTree

inductive EventKind where
  | put
  | patch
  deriving DecidableEq, Repr

structure Event where
  kind : EventKind
  path : String
  data : Json
  snapshot : Option Json
  deriving DecidableEq, Repr

namespace EventKind

def name : EventKind → String
  | .put => "put"
  | .patch => "patch"

def ofName? (s : String) : Option EventKind :=
  if s = "put" then some .put else if s = "patch" then some .patch else none

def variantsWant : String := "`put` or `patch`"

def readName : Json.Reader EventKind := fun c => do
  let (s, c) ← Json.readText c
  match ofName? s with
  | some k => .ok (k, c)
  | none => .error (c.flawHere (.unknownVariant s variantsWant))

def readKeyQuote : Json.Reader Unit := fun c =>
  let c := c.skipBlanks
  match c.byte? with
  | none => .error (c.flawNext .endInObject)
  | some b =>
      if b = 0x22 then .ok ((), c.next)
      else if b = 0x7D then .error (c.flawNext .valueExpected)
      else .error (c.flawNext .keyNotText)

def readTagged : Json.Reader EventKind := fun c => do
  let ((), c) ← readKeyQuote c
  let (k, c) ← readName c
  let ((), c) ← Json.readColon c
  let (_, c) ← Json.ScalarShape.unit.read c
  .ok (k, c)

def closeTagged (c : Json.Cursor) : Except Json.Flaw Json.Cursor :=
  let c := c.skipBlanks
  match c.byte? with
  | none => .error (c.flawHere .endInObject)
  | some b => if b = 0x7D then .ok c.next else .error (c.flawHere .valueExpected)

def read : Json.Reader EventKind := fun c => do
  let (b, c) ← Json.firstByte c
  if b = 0x7B then
    let (k, c) ← Json.enter Change.innerDepth readTagged c
    let c ← closeTagged c
    .ok (k, c)
  else if b = 0x22 then readName c.next
  else .error (c.flawNext .valueExpected)

end EventKind

namespace Event

def ofChange (kind : EventKind) (c : Change) : Event :=
  ⟨kind, c.path, c.data, none⟩

structure Draft where
  kind : Option EventKind
  path : Option String
  data : Option Json
  snapshot : Option (Option Json)

def readSnapshot (fuel : Nat) : Json.Reader (Option Json) := fun c => do
  let c := c.skipBlanks
  if c.byte? = some 0x6E then
    let (_, c) ← Json.literal Json.afterN .null c
    .ok (none, c)
  else
    let (j, c) ← Json.readValue fuel Change.innerDepth c
    .ok (some j, c)

def fields (fuel : Nat) : List (Json.Field Draft) :=
  [⟨"kind", fun d => d.kind.isSome, fun d c => do
      let (k, c) ← EventKind.read c
      .ok ({ d with kind := some k }, c)⟩,
   ⟨"path", fun d => d.path.isSome, fun d c => do
      let (s, c) ← Change.readPath c
      .ok ({ d with path := some s }, c)⟩,
   ⟨"data", fun d => d.data.isSome, fun d c => do
      let (j, c) ← Json.readValue fuel Change.innerDepth c
      .ok ({ d with data := some j }, c)⟩,
   ⟨"snapshot", fun d => d.snapshot.isSome, fun d c => do
      let (s, c) ← readSnapshot fuel c
      .ok ({ d with snapshot := some s }, c)⟩]

def finish (d : Draft) : Except Json.Cause Event :=
  match d.kind, d.path, d.data with
  | some kind, some path, some data => .ok ⟨kind, path, data, d.snapshot.getD none⟩
  | none, _, _ => .error (.missingField "kind")
  | _, none, _ => .error (.missingField "path")
  | _, _, none => .error (.missingField "data")

def record : Json.Record Draft Event :=
  ⟨"struct Event", ⟨none, none, none, none⟩, fields, finish⟩

def ofBytes (bytes : List UInt8) : Except Json.Fault Event :=
  record.ofBytes bytes

def render (e : Event) : List Char :=
  "\x7b\"kind\":".toList ++ Json.renderText e.kind.name ++ ",\"path\":".toList
    ++ Json.renderText e.path ++ ",\"data\":".toList ++ e.data.render
    ++ (match e.snapshot with
      | none => []
      | some s => ",\"snapshot\":".toList ++ s.render) ++ ['\x7d']

def toText (e : Event) : String :=
  String.ofList e.render

def dataAs (e : Event) (shape : Json.Shape) : Except Json.Fault Json :=
  match shape.fit e.data with
  | .ok j => .ok j
  | .error cause => .error ⟨cause, none⟩

end Event

end LiveTree
