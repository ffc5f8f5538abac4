import LiveTree.Json.Record

namespace LiveTree.PushedKey

def readName : Json.Reader String := fun c => do
  let (j, c) ← Json.ScalarShape.text.read c
  match j with
  | .text s => .ok (s, c)
  | _ => .ok ("", c)

def fields (_ : Nat) : List (Json.Field (Option String)) :=
  [⟨"name", fun d => d.isSome, fun _ c => do
      let (s, c) ← readName c
      .ok (some s, c)⟩]

def finish (d : Option String) : Except Json.Cause String :=
  match d with
  | some name => .ok name
  | none => .error (.missingField "name")

def record : Json.Record (Option String) String :=
  ⟨"struct PushResponse", none, fields, finish⟩

def ofBytes (bytes : List UInt8) : Except Json.Fault String :=
  record.ofBytes bytes

end LiveTree.PushedKey
