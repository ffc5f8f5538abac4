import LiveTree.Json.Printer
import LiveTree.Text.Form

namespace LiveTree

structure Query where
  options : Keyed String
  deriving DecidableEq, Repr

namespace Query

def empty : Query :=
  ⟨[]⟩

def isEmpty (q : Query) : Bool :=
  q.options.isEmpty

def get? (q : Query) (key : String) : Option String :=
  Keyed.get? key q.options

def set (q : Query) (key value : String) : Query :=
  ⟨Keyed.insert key value q.options⟩

def remove (q : Query) (key : String) : Query :=
  ⟨Keyed.erase key q.options⟩

def toggle (q : Query) (key value : String) (on : Bool) : Query :=
  if on then q.set key value else q.remove key

def setShallow (q : Query) (on : Bool) : Query :=
  q.toggle "shallow" "true" on

def setPriority (q : Query) (on : Bool) : Query :=
  q.toggle "format" "export" on

def setAuth (q : Query) (token : String) : Query :=
  q.set "auth" token

def unsetAuth (q : Query) : Query :=
  q.remove "auth"

def setJson (q : Query) (key : String) (j : Json) : Query :=
  q.set key j.compact

def orderBy (q : Query) (key : String) : Query :=
  q.setJson "orderBy" (.text key)

def equalTo (q : Query) (j : Json) : Query :=
  q.setJson "equalTo" j

def startAt (q : Query) (j : Json) : Query :=
  q.setJson "startAt" j

def endAt (q : Query) (j : Json) : Query :=
  q.setJson "endAt" j

def limitToFirst (q : Query) (n : Nat) : Query :=
  q.set "limitToFirst" (toString n)

def limitToLast (q : Query) (n : Nat) : Query :=
  q.set "limitToLast" (toString n)

def encode (q : Query) : List Char :=
  Text.Form.encode q.options

def toText (q : Query) : String :=
  String.ofList q.encode

theorem get?_set_self (q : Query) (key value : String) : (q.set key value).get? key = some value :=
  Keyed.get?_insert_self ..

theorem get?_set_of_ne (q : Query) {key other : String} (h : other ≠ key) (value : String) :
    (q.set key value).get? other = q.get? other :=
  Keyed.get?_insert_of_ne h ..

theorem get?_remove_of_ne (q : Query) {key other : String} (h : other ≠ key) :
    (q.remove key).get? other = q.get? other :=
  Keyed.get?_erase_of_ne h _

theorem sorted_set (q : Query) (h : q.options.Sorted) (key value : String) :
    (q.set key value).options.Sorted :=
  Keyed.sorted_insert _ _ h

theorem sorted_remove (q : Query) (h : q.options.Sorted) (key : String) :
    (q.remove key).options.Sorted :=
  Keyed.sorted_erase _ h

end Query

end LiveTree
