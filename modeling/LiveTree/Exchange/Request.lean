import LiveTree.Location
import LiveTree.Text.Base64

namespace LiveTree

inductive Method where
  | get
  | put
  | patch
  | post
  | delete
  deriving DecidableEq, Repr

def Method.name : Method → String
  | .get => "GET"
  | .put => "PUT"
  | .patch => "PATCH"
  | .post => "POST"
  | .delete => "DELETE"

structure Request where
  method : Method
  url : Url
  accept : String
  userAgent : String
  contentType : Option String
  authorization : Option String
  body : List UInt8
  deriving DecidableEq, Repr

namespace Request

def anything : String := "*/*"

def eventStream : String := "text/event-stream"

def jsonType : String := "application/json"

def plainText? (encoded : List Char) : Option (List Char) :=
  (Text.Utf8.decode (Text.Percent.decode (Text.Utf8.encode encoded))).toOption

def credentials (user password : List Char) : String :=
  String.ofList ("Basic ".toList ++ Text.Base64.encode (Text.Utf8.encode (user ++ ':' :: password)))

/-- The header that user and password of a URL become, and the URL without them. They stay where
they are when they are no text. -/
def takeUser (u : Url) : Option String × Url :=
  match plainText? u.user with
  | none => (none, u)
  | some user =>
      let password := u.password >>= plainText?
      if user = [] && password = none then (none, u)
      else (some (credentials user (password.getD [])), u.withoutUser)

def toUrl (u : Url) (method : Method) (accept userAgent : String) (body : Option (List UInt8)) :
    Request :=
  let (authorization, url) := takeUser u
  ⟨method, url, accept, userAgent, body.map fun _ => jsonType, authorization, body.getD []⟩

def longestUrl : Nat := 65534

def isUnsendable (c : Char) : Bool :=
  c = '"' || c = '`' || c = '\x7b' || c = '\x7d'

def isSendable (r : Request) : Bool :=
  r.url.render.length ≤ longestUrl && !r.url.hostText.any isUnsendable

end Request

def Location.request (l : Location) (method : Method) (accept userAgent : String)
    (body : Option (List UInt8)) : Except Failure Request :=
  l.requestUrl.map fun u => Request.toUrl u method accept userAgent body

end LiveTree
