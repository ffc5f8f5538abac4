import LiveTree.Failure.Basic
import LiveTree.Notice
import LiveTree.Text.Blank

namespace LiveTree.Stream

structure Pending where
  event : Option (List Char)
  data : List (List Char)
  deriving DecidableEq, Repr

namespace Pending

def empty : Pending :=
  ⟨none, []⟩

def isEmpty (r : Pending) : Bool :=
  r.event.isNone && r.data.isEmpty

def dataText? (r : Pending) : Option (List Char) :=
  match r.data with
  | [] => none
  | lines => some (List.intercalate ['\n'] lines.reverse)

end Pending

def dropSpace : List Char → List Char
  | ' ' :: cs => cs
  | cs => cs

def splitField (line : List Char) : List Char × List Char :=
  let name := line.takeWhile (· ≠ ':')
  (name, dropSpace (line.drop (name.length + 1)))

def eventField : List Char := ['e', 'v', 'e', 'n', 't']

def dataField : List Char := ['d', 'a', 't', 'a']

def Pending.pushLine (r : Pending) (line : List Char) : Pending :=
  let (name, value) := splitField line
  if name = eventField then { r with event := some value }
  else if name = dataField then { r with data := value :: r.data }
  else r

/-- The reason that a record's data gives: the text it quotes, the JSON value it is, or else the
bare words; null and blank data give none. -/
def reasonOf (data : Option (List Char)) : Option String :=
  match data with
  | none => none
  | some raw =>
      match Json.ofBytes (Text.Utf8.encode raw) with
      | .ok .null => none
      | .ok (.text s) => some s
      | .ok j => some j.compact
      | .error _ =>
          let words := Text.trim raw
          if words = [] then none else some (String.ofList words)

def changeOf (kind : EventKind) (data : Option (List Char)) : Except Failure Notice :=
  match data with
  | none => .error (.decode (kind.name ++ " record without data"))
  | some raw =>
      match Change.ofBytes (Text.Utf8.encode raw) with
      | .ok c => .ok (.change kind c)
      | .error f => .error (.decode ("invalid " ++ kind.name ++ " payload: " ++ f.message))

def Pending.decode (r : Pending) : Except Failure Notice :=
  match r.event with
  | none => .error (.decode "record without an event name")
  | some name =>
      let name := String.ofList name
      let data := r.dataText?
      if name = "put" then changeOf .put data
      else if name = "patch" then changeOf .patch data
      else if name = "keep-alive" then .ok .keepAlive
      else if name = "cancel" then .ok (.cancel (reasonOf data))
      else if name = "auth_revoked" || name = "auth-revoked" then .ok (.authRevoked (reasonOf data))
      else .error (.decode ("unknown event kind " ++ Text.Quoted.ofString name))

end LiveTree.Stream
