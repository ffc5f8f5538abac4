import LiveTree.Settings
import LiveTree.Watch.Schedule

namespace LiveTree

structure Client where
  settings : Settings
  traffic : Traffic

/-- A dropped handle cannot be used any more, but what its watches have sent can be received. -/
structure Handle where
  location : Location
  client : Nat
  watch : Watch.System
  dropped : Bool

/-- The clients and handles made so far, the network, and the requests that have reached the
server. -/
structure Session where
  clients : List Client
  handles : List Handle
  network : Network
  received : List Request

namespace Session

def start (network : Network) : Session :=
  ⟨[], [], network, []⟩

def handle? (s : Session) (h : Nat) : Option Handle :=
  s.handles[h]?.filter (!·.dropped)

def client? (s : Session) (h : Nat) : Option Client :=
  s.handle? h >>= fun x => s.clients[x.client]?

def timeout? (s : Session) (h : Nat) : Option Span :=
  (s.client? h).map (·.traffic.budget)

def allowance? (s : Session) (h : Nat) : Option Allowance :=
  (s.client? h).map (·.traffic.allowance)

def phase? (s : Session) (h : Nat) : Option Watch.Phase :=
  (s.handle? h).map (·.watch.phase)

def call? (s : Session) (h call : Nat) : Option Watch.Call :=
  s.handles[h]? >>= (·.watch.calls[call]?)

def setHandle (s : Session) (h : Nat) (x : Handle) : Session :=
  { s with handles := s.handles.set h x }

def addHandle (s : Session) (x : Handle) : Session :=
  { s with handles := s.handles ++ [x] }

def setTraffic (s : Session) (client : Nat) (t : Traffic) : Session :=
  { s with clients := s.clients.modify client fun c => { c with traffic := t } }

def newClient (settings : Settings) : Except Failure Client :=
  match settings.problem? with
  | some f => .error f
  | none => .ok ⟨settings, Traffic.new settings.timeout⟩

/-- Makes the first handle of a new client. The address is checked before the settings. -/
def connect (s : Session) (address : String) (settings : Settings) : Except Failure Session := do
  let location ← Location.ofAddress address
  let client ← newClient settings
  .ok { s with
    clients := s.clients ++ [client]
    handles := s.handles ++ [⟨location, s.clients.length, Watch.System.new, false⟩] }

end Session

end LiveTree
