import LiveTree.Failure.Basic
import LiveTree.Log
import LiveTree.Text.Blank
import LiveTree.Url.Parser

namespace LiveTree

structure Settings where
  timeout : Span
  keepAlive : Span
  idleTimeout : Span
  proxy : String
  userAgent : String
  watchBuffer : Nat
  deriving DecidableEq

namespace Settings

def default : Settings :=
  ⟨Span.ofParts 30 0, Span.ofParts 30 0, Span.ofParts 90 0, "", "firebase-http/0.1.0", 100⟩

instance : Inhabited Settings := ⟨default⟩

def parseMillis (text : List Char) : Option Nat :=
  let digits := match text with
    | '+' :: cs => cs
    | cs => cs
  if digits = [] then none else (Url.numberIn? 10 digits).filter (· < 0x10000000000000000)

structure Environment where
  timeoutMillis : Option String
  proxy : Option String
  deriving DecidableEq, Repr

/-- A timeout that is no number is ignored; a proxy is taken as it is, without outer blanks. -/
def withEnvironment (s : Settings) (e : Environment) : Settings :=
  let s := match e.timeoutMillis with
    | none => s
    | some raw =>
        match parseMillis (Text.trim raw.toList) with
        | some n => { s with timeout := Span.ofMillis n }
        | none => s
  match e.proxy with
  | none => s
  | some raw => { s with proxy := String.ofList (Text.trim raw.toList) }

def ofEnvironment (e : Environment) : Settings :=
  default.withEnvironment e

def log (e : Environment) : List Log.Line :=
  match e.timeoutMillis with
  | none => []
  | some raw =>
      match parseMillis (Text.trim raw.toList) with
      | some _ => []
      | none => [⟨.warn, .settings,
          "Ignoring invalid FIREBASE_TIMEOUT_MS=" ++ Text.Quoted.ofString raw⟩]

def hasHost (u : Url) : Bool :=
  u.host.isSome

/-- Whether a text is the URL of a machine, or is with a scheme put in front of it. Only a text
without scheme or host gets the second try. -/
def isProxy (text : List Char) : Bool :=
  let second := match Url.parse ("http://".toList ++ text) with
    | .ok u => hasHost u
    | .error _ => false
  match Url.parse text with
  | .ok u => hasHost u || second
  | .error .noScheme => second
  | .error _ => false

def isHeaderText (text : List Char) : Bool :=
  text.all fun c => c = '\t' || !Url.isControl c

/-- What keeps a client from being built with some settings. An empty proxy is no proxy. -/
def problem? (s : Settings) : Option Failure :=
  if s.proxy ≠ "" && !isProxy s.proxy.toList then
    some (.config "invalid proxy URL: builder error")
  else if !isHeaderText s.userAgent.toList then some (.config "builder error")
  else none

end Settings

end LiveTree
