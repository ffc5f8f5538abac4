import LiveTree.Span

namespace LiveTree

inductive IoKind where
  | addressInUse
  | addressNotAvailable
  | alreadyExists
  | brokenPipe
  | connectionAborted
  | connectionRefused
  | connectionReset
  | interrupted
  | invalidData
  | invalidInput
  | notConnected
  | notFound
  | outOfMemory
  | permissionDenied
  | timedOut
  | unexpectedEnd
  | unsupported
  | wouldBlock
  | writeZero
  | other
  deriving DecidableEq, Repr

def IoKind.message : IoKind → String
  | .addressInUse => "address in use"
  | .addressNotAvailable => "address not available"
  | .alreadyExists => "entity already exists"
  | .brokenPipe => "broken pipe"
  | .connectionAborted => "connection aborted"
  | .connectionRefused => "connection refused"
  | .connectionReset => "connection reset"
  | .interrupted => "operation interrupted"
  | .invalidData => "invalid data"
  | .invalidInput => "invalid input parameter"
  | .notConnected => "not connected"
  | .notFound => "entity not found"
  | .outOfMemory => "out of memory"
  | .permissionDenied => "permission denied"
  | .timedOut => "timed out"
  | .unexpectedEnd => "unexpected end of file"
  | .unsupported => "unsupported"
  | .wouldBlock => "operation would block"
  | .writeZero => "write zero"
  | .other => "other error"

/-- One link of a chain. A `wrap` has the rest of the chain as its cause and an `io` holds it, if
there is any; the other links end the chain. -/
inductive Link where
  | wrap
  | io (kind : IoKind)
  | dial (budget : Span)
  | elapsed
  | other
  deriving DecidableEq

abbrev Chain := List Link

namespace Chain

def isTimeoutLink : Link → Bool
  | .dial _ => true
  | .elapsed => true
  | .io kind => kind = .timedOut
  | _ => false

/-- The links met by going from cause to cause; the first link counts only if it is `met` itself. -/
def walk (met : Bool) : Chain → List Link
  | [] => []
  | l :: rest =>
      let behind := match l with
        | .wrap => walk true rest
        | .io _ => walk false rest
        | _ => []
      if met then l :: behind else behind

def visited (c : Chain) : List Link :=
  c.walk true

def isTimeout (c : Chain) : Bool :=
  c.visited.any isTimeoutLink

/-- The text of a chain: of a link that holds others, theirs; a missing cause is an error without
further news. -/
def text : Chain → String
  | [] => "other"
  | .wrap :: _ => "wrap"
  | .io kind :: [] => kind.message
  | .io _ :: held :: rest => text (held :: rest)
  | .dial budget :: _ => "connection not established within " ++ budget.toText
  | .elapsed :: _ => "deadline has elapsed"
  | .other :: _ => "other"

end Chain

end LiveTree
