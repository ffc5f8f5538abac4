import LiveTree.Json.Record

namespace LiveTree

structure Change where
  path : String
  data : Json
  deriving DecidableEq, Repr

namespace Change

structure Draft where
  path : Option String
  data : Option Json

def innerDepth : Nat :=
  Json.depthBudget - 1

def readPath : Json.Reader String := fun c => do
  let (j, c) ← Json.ScalarShape.text.read c
  match j with
  | .text s => .ok (s, c)
  | _ => .ok ("", c)

def fields (fuel : Nat) : List (Json.Field Draft) :=
  [⟨"path", fun d => d.path.isSome, fun d c => do
      let (s, c) ← readPath c
      .ok ({ d with path := some s }, c)⟩,
   ⟨"data", fun d => d.data.isSome, fun d c => do
      let (j, c) ← Json.readValue fuel innerDepth c
      .ok ({ d with data := some j }, c)⟩]

def finish (d : Draft) : Except Json.Cause Change :=
  match d.path, d.data with
  | some path, some data => .ok ⟨path, data⟩
  | none, _ => .error (.missingField "path")
  | _, none => .error (.missingField "data")

def record : Json.Record Draft Change :=
  ⟨"struct Change", ⟨none, none⟩, fields, finish⟩

def ofBytes (bytes : List UInt8) : Except Json.Fault Change :=
  record.ofBytes bytes

def render (c : Change) : List Char :=
  "\x7b\"path\":".toList ++ Json.renderText c.path ++ ",\"data\":".toList
    ++ c.data.render ++ ['\x7d']

def renderPretty (c : Change) : List Char :=
  '\x7b' :: (Json.lineAt 1 ++ "\"path\": ".toList ++ Json.renderText c.path ++ ','
    :: (Json.lineAt 1 ++ "\"data\": ".toList ++ Json.renderPretty 1 c.data ++ Json.lineAt 0
    ++ ['\x7d']))

end Change

end LiveTree
