import LiveTree.Failure.Chain
import LiveTree.Json.Fault
import LiveTree.Url.Fault

namespace LiveTree

inductive Failure where
  | timeout (source : String)
  | decode (text : String)
  | remote (status : Nat) (body : String)
  | transport (source : String)
  | json (fault : Json.Fault)
  | invalidUrl (fault : Url.Fault)
  | alreadyWatching
  | stopped
  | streamCancelled (reason : Option String)
  | authRevoked (reason : Option String)
  | config (text : String)
  deriving DecidableEq, Repr

namespace Failure

def reasonText : Option String → String
  | none => ""
  | some reason => ": " ++ reason

def message : Failure → String
  | .timeout source => "request timed out: " ++ source
  | .decode text => "malformed event stream: " ++ text
  | .remote _ body => body
  | .transport source => "transport error: " ++ source
  | .json fault => "JSON error: " ++ fault.message
  | .invalidUrl fault => "invalid database URL: " ++ fault.message
  | .alreadyWatching => "a watch is already active on this location"
  | .stopped => "watch stopped before the stream was established"
  | .streamCancelled reason => "server cancelled the event stream" ++ reasonText reason
  | .authRevoked reason => "server revoked authorization for the event stream" ++ reasonText reason
  | .config text => "configuration error: " ++ text

/-- The text of what a failure was caused by, where it keeps that apart from its own. -/
def source? : Failure → Option String
  | .timeout source => some source
  | .transport source => some source
  | .json fault => some fault.message
  | .invalidUrl fault => some fault.message
  | _ => none

def isTimeout : Failure → Bool
  | .timeout _ => true
  | _ => false

def isRemote : Failure → Bool
  | .remote _ _ => true
  | _ => false

def status? : Failure → Option Nat
  | .remote status _ => some status
  | _ => none

def isStreamControl : Failure → Bool
  | .streamCancelled _ => true
  | .authRevoked _ => true
  | _ => false

def ofChain (c : Chain) (text : String) : Failure :=
  if c.isTimeout then .timeout text else .transport text

end Failure

end LiveTree
