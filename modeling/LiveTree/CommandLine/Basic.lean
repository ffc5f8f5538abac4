import LiveTree.CommandLine.Arguments
import LiveTree.Session.Operation

namespace LiveTree.CommandLine

structure Environment where
  auth : Option String
  settings : Settings.Environment
  deriving DecidableEq, Repr

inductive Complaint where
  | usage
  | badValue (raw : String) (fault : Json.Fault)
  | failure (f : Failure)
  deriving DecidableEq, Repr

namespace Complaint

def headline : Complaint → String
  | .usage => "wrong arguments"
  | .badValue raw _ => "not valid JSON: " ++ raw
  | .failure f => f.message

def cause? : Complaint → Option String
  | .usage => none
  | .badValue _ fault => some fault.message
  | .failure f => f.source?

def text (c : Complaint) : String :=
  "Error: " ++ c.headline ++ "\n" ++
    match c.cause? with
    | none => ""
    | some cause => "\nCaused by:\n    " ++ cause ++ "\n"

def code : Complaint → Nat
  | .usage => 2
  | _ => 1

end Complaint

inductive End where
  | success
  | failure (c : Complaint)
  | never
  | panicked
  deriving DecidableEq, Repr

def End.code? : End → Option Nat
  | .success => some 0
  | .failure c => some c.code
  | .never => none
  | .panicked => some 101

/-- The text that a command prints, the lines that are logged meanwhile, the end, and the requests
that have reached the server. What is printed and what is shown of the log go to the same output. The
lines of a watch come in this order, but at any time before the end. -/
structure Report where
  output : String
  log : List Log.Line
  ending : End
  received : List Request

def Report.behind (r : Report) (lines : List Log.Line) : Report :=
  { r with log := lines ++ r.log }

def endOf : Session.Result → End
  | .failed f => .failure (.failure f)
  | .nothing => .never
  | .panicked => .panicked
  | _ => .success

def line (text : String) : String :=
  text ++ "\n"

def root : Nat := 0

def once (s : Session) (op : Session.Operation) (shown : Session → Session.Result → String)
    (logged : Session → Session.Result → List Log.Line) : Report :=
  let (r, s) := s.perform root op
  ⟨shown s r, logged s r, endOf r, s.received⟩

def silent (_ : Session) (_ : Session.Result) : String :=
  ""

def showValue (_ : Session) : Session.Result → String
  | .value j => line j.pretty
  | _ => ""

def showHandle (s : Session) : Session.Result → String
  | .handle h => (s.handle? h).elim "" fun x => line x.location.address
  | _ => ""

def address (s : Session) : String :=
  (s.handle? root).elim "" (·.location.address)

def unlogged (_ : Session) (_ : Session.Result) : List Log.Line :=
  []

def logDone (what : String) (s : Session) : Session.Result → List Log.Line
  | .done => [⟨.info, .command, what ++ " " ++ address s⟩]
  | _ => []

def withValue (s : Session) (raw : String) (op : Json → Session.Operation)
    (shown : Session → Session.Result → String)
    (logged : Session → Session.Result → List Log.Line) : Report :=
  match Json.ofString raw with
  | .ok j => once s (op j) shown logged
  | .error fault => ⟨"", [], .failure (.badValue raw fault), s.received⟩

/-- What is logged when the request of a watch has come to a result, first about the URL and then
about the location. Nothing is logged about a request that could not be built. -/
def openingLog (s : Session) (result : Session.Result) : List Log.Line :=
  let request? := s.handle? root >>= fun x =>
    (x.location.request .get Request.eventStream (s.userAgent x) none).toOption
  match request?, result with
  | some r, .done =>
      [⟨.info, .watch, "[watch] streaming " ++ r.url.toText⟩,
        ⟨.info, .command, "Watching " ++ address s ++ " (Ctrl-C to stop)"⟩]
  | some r, .failed f =>
      [⟨.warn, .watch, "[watch] failed to open stream for " ++ r.url.toText ++ ": " ++ f.message⟩]
  | _, _ => []

/-- What is logged when the stream of a watch ends, by its pump and then by the command. -/
def closingLog : Option Failure → List Log.Line
  | none => [⟨.info, .watch, "[watch] server closed the stream"⟩,
      ⟨.info, .command, "Stream closed by server"⟩]
  | some f => [⟨.warn, .watch, "[watch] stream ended with error: " ++ f.message⟩,
      ⟨.warn, .command, "Watch ended: " ++ f.message⟩]

def printDeliveries (call : Nat) : Nat → Session → String → Report
  | 0, s, printed => ⟨printed, [], .never, s.received⟩
  | fuel + 1, s, printed =>
      match s.perform root (.receive call) with
      | (.delivery (.ok e), s) => printDeliveries call fuel s (printed ++ line e.toText)
      | (.delivery (.error f), s) =>
          ⟨printed, closingLog (some f), .failure (.failure f), s.received⟩
      | (.closed, s) => ⟨printed, closingLog none, .success, s.received⟩
      | (_, s) => ⟨printed, [], .never, s.received⟩

def deliveryBound (s : Session) (call : Nat) : Nat :=
  match s.call? root call with
  | none => 1
  | some c =>
      c.channel.waiting.length + 2 + match c.point with
        | .pumping p => Watch.sourceSize p.source
        | _ => 0

def watch (s : Session) (capacity : Nat) (replicating : Bool) : Report :=
  match s.perform root (.openWatch (some capacity) replicating) with
  | (.call call, t) =>
      match t.perform root (.awaitWatch call) with
      | (.done, t) =>
          (printDeliveries call (deliveryBound t call) t "").behind (openingLog s .done)
      | (r, t) => ⟨"", openingLog s r, endOf r, t.received⟩
  | (r, t) => ⟨"", [], endOf r, t.received⟩

def settingsOf (e : Environment) (i : Invocation) : Settings :=
  let s := Settings.ofEnvironment e.settings
  match i.timeoutMillis with
  | none => s
  | some n => { s with timeout := Span.ofMillis n }

/-- The session of a command, at its location. A token given as an argument goes before that of the
environment. -/
def sessionOf (n : Network) (e : Environment) (i : Invocation) : Except Failure Session := do
  let s ← (Session.start n).connect i.url (settingsOf e i)
  let s := match i.auth.or e.auth with
    | none => s
    | some token => (s.perform root (.adjust (.auth token))).2
  .ok (s.perform root (.adjust (.shallow i.shallow))).2

def runCommand (s : Session) (buffer : Nat) : Command → Report
  | .get => once s (.read .any) showValue unlogged
  | .set raw => withValue s raw .replace silent (logDone "Wrote")
  | .update raw => withValue s raw .merge silent (logDone "Updated")
  | .push raw => withValue s raw .push showHandle unlogged
  | .remove => once s .remove silent (logDone "Removed")
  | .watch replicating => watch s buffer replicating

def run (n : Network) (e : Environment) (args : List String) : Report :=
  match parse args with
  | .error .help => ⟨"", [], .success, []⟩
  | .error .mistake => ⟨"", [], .failure .usage, []⟩
  | .ok i =>
      let report : Report := match sessionOf n e i with
        | .error f => ⟨"", [], .failure (.failure f), []⟩
        | .ok s => runCommand s (settingsOf e i).watchBuffer i.command
      report.behind (Settings.log e.settings)

end LiveTree.CommandLine
