import LiveTree.Notice
import LiveTree.Text.Blank
import LiveTree.Text.Split

namespace LiveTree

def pathSegments (path : String) : List String :=
  ((Text.splitOn '/' path.toList).filter (· ≠ [])).map String.ofList

namespace Json

def members : Json → Keyed Json
  | .object ms => ms
  | _ => []

/-- Writes data at the end of a path. What stands in the way and is no object becomes one. -/
def setAt (data : Json) : List String → Json → Json
  | [], _ => data
  | s :: rest, node =>
      let ms := node.members
      let child := setAt data rest ((Keyed.get? s ms).getD .null)
      .object (Keyed.insert s child ms)

def ofMembers? : Keyed Json → Option Json
  | [] => none
  | ms => some (.object ms)

def putBack (key : String) (ms : Keyed Json) : Option Json → Keyed Json
  | none => Keyed.erase key ms
  | some left => Keyed.insert key left ms

/-- Removes what is at the end of a path, and every object that this leaves empty; none when
nothing is left. -/
def removeAt : List String → Json → Option Json
  | [], _ => none
  | s :: rest, .object ms =>
      match Keyed.get? s ms with
      | none => ofMembers? ms
      | some child => ofMembers? (putBack s ms (removeAt rest child))
  | _ :: _, node => some node

def lookup : List String → Json → Option Json
  | [], node => some node
  | s :: rest, node => Keyed.get? s node.members >>= lookup rest

mutual
def isCanonical : Json → Bool
  | .object [] => false
  | .object ((_, x) :: xs) => x ≠ .null && isCanonical x && areCanonicalMembers xs
  | .list xs => areCanonicalItems xs
  | _ => true

def areCanonicalItems : List Json → Bool
  | [] => true
  | x :: xs => isCanonical x && areCanonicalItems xs

def areCanonicalMembers : List (String × Json) → Bool
  | [] => true
  | (_, x) :: xs => x ≠ .null && isCanonical x && areCanonicalMembers xs
end

end Json

structure Replica where
  value : Json
  deriving DecidableEq, Repr

namespace Replica

def new : Replica :=
  ⟨.null⟩

def putAt (r : Replica) (steps : List String) (data : Json) : Replica :=
  if data = .null then ⟨(r.value.removeAt steps).getD .null⟩ else ⟨Json.setAt data steps r.value⟩

def put (r : Replica) (path : String) (data : Json) : Replica :=
  r.putAt (pathSegments path) data

def memberPath (path key : String) : String :=
  String.ofList (Text.dropEndWhile (· = '/') path.toList ++ '/' :: key.toList)

/-- Writes each member of the data below a path; data that is no object replaces the value. -/
def patch (r : Replica) (path : String) (data : Json) : Replica :=
  match data with
  | .object ms => ms.foldl (fun r m => r.put (memberPath path m.1) m.2) r
  | data => r.put path data

def apply (r : Replica) (e : Event) : Replica :=
  match e.kind with
  | .put => r.put e.path e.data
  | .patch => r.patch e.path e.data

end Replica

end LiveTree
