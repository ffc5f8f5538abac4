import LiveTree.Exchange.Network
import LiveTree.Stream.Source
import LiveTree.Traffic

namespace LiveTree

inductive Outcome (α : Type) where
  | done (x : α)
  | failed (f : Failure)
  | nothing
  | panicked

namespace Outcome

variable {α β : Type}

def bind (o : Outcome α) (f : α → Outcome β) : Outcome β :=
  match o with
  | .done x => f x
  | .failed e => .failed e
  | .nothing => .nothing
  | .panicked => .panicked

def map (f : α → β) (o : Outcome α) : Outcome β :=
  o.bind fun x => .done (f x)

def ofExcept : Except Failure α → Outcome α
  | .ok x => .done x
  | .error f => .failed f

def isPanic : Outcome α → Bool
  | .panicked => true
  | _ => false

end Outcome

namespace Exchange

def aboutUrl (what : String) (u : Url) : String :=
  what ++ " for url (" ++ u.toText ++ ")"

def sendText (u : Url) : String :=
  aboutUrl "error sending request" u

def bodyText : String := "error decoding response body"

def elapsedText : String := "deadline has elapsed"

def readBody (u : Url) (a : Answer) : Outcome (List UInt8) :=
  match a.ending with
  | .closed => .done a.pieces.flatten
  | .held => .nothing
  | .broken chain => .failed (Failure.ofChain chain (aboutUrl bodyText u))

def isSuccess (status : Nat) : Bool :=
  200 ≤ status && status < 300

/-- An answer whose status is not that of a success is a failure with the text of its body, which
has to be read first. -/
def conclude (u : Url) (a : Answer) : Outcome Answer :=
  if isSuccess a.status then .done a
  else (readBody u a).bind fun bytes =>
    .failed (.remote a.status (String.ofList (a.charset.read bytes)))

/-- The body of an answer as an event stream reads it; what it breaks off with is told without the
URL. -/
def sourceOf (a : Answer) : Stream.Source :=
  let pieces := a.pieces.map .ok
  match a.ending with
  | .closed => .ofBody pieces
  | .held => .ofOpenBody pieces
  | .broken chain => .ofBody (pieces ++ [.error (Failure.ofChain chain bodyText)])

def receive (u : Url) : Reply → Outcome Answer
  | .answer a => conclude u a
  | .silence => .failed (.timeout elapsedText)
  | .hangUp => .failed (.transport (sendText u))

/-- What an exchange comes to, both ends of it afterwards, the request if it reached the server,
and whether the outcome came only with the deadline. -/
structure Sent where
  outcome : Outcome Answer
  traffic : Traffic
  network : Network
  received : Option Request
  late : Bool

def connect (t : Traffic) (n : Network) : Option (DialResult × Traffic) := do
  let dial := t.dials.length
  let t ← t.dial? (t.deadlines.length - 1)
  let t ← t.wait? n.setupTime
  let t ← t.finish? dial (if n.isReachable then .connected else .refused)
  let d ← t.dials[dial]?
  let (result, _) ← d.ended
  some (result, t)

def sendConnected (t : Traffic) (n : Network) (r : Request) : Sent :=
  match n.nextReply? with
  | none => ⟨.failed (.transport (sendText r.url)), t, n, none, false⟩
  | some (reply, n) => ⟨receive r.url reply, t, n, some r, reply.isSilence⟩

def unsent (o : Outcome Answer) (t : Traffic) (n : Network) : Sent :=
  ⟨o, t, n, none, false⟩

/-- Sends a request. The deadline is the present time and the budget, added without any care: a sum
that the clock cannot tell is a panic. -/
def send (t : Traffic) (n : Network) (r : Request) : Sent :=
  match t.issue? with
  | none => unsent .panicked t n
  | some t =>
      if !r.isSendable then unsent (.failed (.transport (aboutUrl "builder error" r.url))) t n
      else match connect t n with
        | some (.connected, t) => sendConnected t n r
        | some (.refused, t) => unsent (.failed (.transport (sendText r.url))) t n
        | some (.timedOut _, t) => unsent (.failed (.timeout (sendText r.url))) t n
        | some (.nothing, t) => unsent .nothing t n
        | none => unsent .nothing t n

end Exchange

end LiveTree
