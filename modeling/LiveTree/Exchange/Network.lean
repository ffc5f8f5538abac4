import LiveTree.Exchange.Request
import LiveTree.Failure.Chain
import LiveTree.Text.Charset

namespace LiveTree

/-- What comes behind the pieces of a body: its end, nothing for ever, or a failure. -/
inductive Ending where
  | closed
  | held
  | broken (chain : Chain)
  deriving DecidableEq

/-- The head of an answer, of which only the status and the charset count, and its body. -/
structure Answer where
  status : Nat
  pieces : List (List UInt8)
  ending : Ending
  charset : Text.Charset

inductive Reply where
  | answer (a : Answer)
  | silence
  | hangUp

inductive Network where
  | unreachable
  | scripted (replies : List Reply)

namespace Reply

def isSilence : Reply → Bool
  | .silence => true
  | _ => false

def complete (status : Nat) (body : List UInt8) : Reply :=
  .answer ⟨status, [body], .closed, .utf8⟩

def unprepared : Reply :=
  complete 500 (Text.Utf8.encode "\"no scripted reply\"".toList)

end Reply

namespace Network

def isReachable : Network → Bool
  | .unreachable => false
  | .scripted _ => true

def setupTime : Network → Span
  | .unreachable => Span.zero
  | .scripted _ => Span.ofNanos 1

def nextReply? : Network → Option (Reply × Network)
  | .unreachable => none
  | .scripted [] => some (Reply.unprepared, .scripted [])
  | .scripted (r :: rest) => some (r, .scripted rest)

end Network

end LiveTree
