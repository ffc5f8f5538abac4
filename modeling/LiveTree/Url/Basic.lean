import LiveTree.Url.Path

namespace LiveTree

/-- An absolute URL in its parts. The number after the host's colon is absent when it is the
scheme's own. -/
structure Url where
  scheme : List Char
  user : List Char
  password : Option (List Char)
  host : Option Url.Host
  portNumber : Option Nat
  path : Url.Path
  query : Option (List Char)
  fragment : Option (List Char)
  deriving DecidableEq, Repr

namespace Url

def userText (u : Url) : List Char :=
  match u.password with
  | none => if u.user = [] then [] else u.user ++ ['@']
  | some p => u.user ++ ':' :: (p ++ ['@'])

def hostText (u : Url) : List Char :=
  match u.host with
  | none => []
  | some h => '/' :: '/' :: (u.userText ++ h.render ++ (match u.portNumber with
      | none => []
      | some n => ':' :: decimal n))

def target (u : Url) : List Char :=
  u.path.render ++ (match u.query with
    | none => []
    | some q => '?' :: q)

def render (u : Url) : List Char :=
  u.scheme ++ ':' :: (u.hostText ++ u.target ++ (match u.fragment with
    | none => []
    | some f => '#' :: f))

def toText (u : Url) : String :=
  String.ofList u.render

def hasUser (u : Url) : Bool :=
  u.user ≠ [] || u.password.isSome

def withoutUser (u : Url) : Url :=
  { u with user := [], password := none }

def wireText (u : Url) : String :=
  { u with fragment := none }.toText

end Url

end LiveTree
