import LiveTree.Failure.Basic
import LiveTree.Query
import LiveTree.Text.Blank
import LiveTree.Url.Parser

namespace LiveTree

structure Location where
  address : String
  query : Query
  deriving DecidableEq, Repr

namespace Location

def secure : List Char := "https://".toList

def plain : List Char := "http://".toList

def normalizeChars (cs : List Char) : List Char :=
  let trimmed := Text.trim cs
  let full :=
    if secure.isPrefixOf trimmed || plain.isPrefixOf trimmed then trimmed else secure ++ trimmed
  Text.dropEndWhile (· = '/') full

def normalize (address : String) : String :=
  String.ofList (normalizeChars address.toList)

def ofAddress (address : String) : Except Failure Location :=
  let address := normalize address
  match Url.parse address.toList with
  | .ok _ => .ok ⟨address, Query.empty⟩
  | .error f => .error (.invalidUrl f)

def isSlash (c : Char) : Bool :=
  c = '/'

def child (l : Location) (path : String) : Location :=
  let step := Text.trimBy isSlash path.toList
  if step = [] then l
  else { l with address := String.ofList (l.address.toList ++ '/' :: step) }

def updateQuery (l : Location) (f : Query → Query) : Location :=
  { l with query := f l.query }

def suffix : List Char := "/.json".toList

/-- The URL of a request to a location. Query options take the place of a query that the address
has. -/
def requestUrl (l : Location) : Except Failure Url :=
  match Url.parse (l.address.toList ++ suffix) with
  | .error f => .error (.invalidUrl f)
  | .ok u => .ok (if l.query.isEmpty then u else u.withQuery l.query.encode)

end Location

end LiveTree
