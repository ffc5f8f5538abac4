import LiveTree.Session.Basic
import LiveTree.Session.Key

namespace LiveTree

inductive Adjustment where
  | shallow (on : Bool)
  | priority (on : Bool)
  | auth (token : String)
  | unauth
  deriving DecidableEq, Repr

inductive Derivation where
  | child (path : String)
  | orderBy (key : String)
  | equalTo (j : Json)
  | startAt (j : Json)
  | endAt (j : Json)
  | limitToFirst (n : Nat)
  | limitToLast (n : Nat)
  deriving DecidableEq, Repr

def Query.adjust (q : Query) : Adjustment → Query
  | .shallow on => q.setShallow on
  | .priority on => q.setPriority on
  | .auth token => q.setAuth token
  | .unauth => q.unsetAuth

def Location.derive (l : Location) : Derivation → Location
  | .child path => l.child path
  | .orderBy key => l.updateQuery (·.orderBy key)
  | .equalTo j => l.updateQuery (·.equalTo j)
  | .startAt j => l.updateQuery (·.startAt j)
  | .endAt j => l.updateQuery (·.endAt j)
  | .limitToFirst n => l.updateQuery (·.limitToFirst n)
  | .limitToLast n => l.updateQuery (·.limitToLast n)

namespace Session

variable {α : Type}

inductive Operation where
  | adjust (a : Adjustment)
  | derive (d : Derivation)
  | setTimeout (d : Span)
  | setAllowance (a : Allowance)
  | read (shape : Json.Shape)
  | replace (j : Json)
  | merge (j : Json)
  | remove
  | push (j : Json)
  | openWatch (capacity : Option Nat) (replicating : Bool)
  | awaitWatch (call : Nat)
  | stop (times : Nat)
  | receive (call : Nat)
  | dropReceiver (call : Nat)
  | drop

/-- What an operation comes to; `nothing` is an operation that never returns, and one that panicked
does not return either. -/
inductive Result where
  | done
  | value (j : Json)
  | handle (number : Nat)
  | call (number : Nat)
  | delivery (d : Watch.Delivery)
  | closed
  | failed (f : Failure)
  | nothing
  | panicked
  | noHandle

def isBodyBlank (b : UInt8) : Bool :=
  b = 0x20 || b = 0x09 || b = 0x0A || b = 0x0C || b = 0x0D

def valueOf (shape : Json.Shape) (body : List UInt8) : Except Failure Json :=
  let r := if body.all isBodyBlank then (shape.fit .null).mapError fun cause => ⟨cause, none⟩
    else shape.ofBytes body
  r.mapError .json

def send (s : Session) (x : Handle) (r : Request) : Exchange.Sent × Session :=
  match s.clients[x.client]? with
  | none => (⟨.nothing, Traffic.new Span.zero, s.network, none, false⟩, s)
  | some c =>
      let sent := Exchange.send c.traffic s.network r
      let s := s.setTraffic x.client sent.traffic
      (sent, { s with network := sent.network, received := s.received ++ sent.received.toList })

def userAgent (s : Session) (x : Handle) : String :=
  (s.clients[x.client]?).elim "" (·.settings.userAgent)

def execute (s : Session) (x : Handle) (m : Method) (body : Option (List UInt8)) :
    Outcome (List UInt8) × Session :=
  match x.location.request m Request.anything (s.userAgent x) body with
  | .error f => (.failed f, s)
  | .ok r =>
      let (sent, s) := s.send x r
      (sent.outcome.bind (Exchange.readBody r.url), s)

def bodyOf (j : Json) : List UInt8 :=
  Text.Utf8.encode j.render

def result (o : Outcome α) (f : α → Result) : Result :=
  match o with
  | .done x => f x
  | .failed e => .failed e
  | .nothing => .nothing
  | .panicked => .panicked

def ofExcept (r : Except Failure α) (f : α → Result) : Result :=
  match r with
  | .ok x => f x
  | .error e => .failed e

def write (s : Session) (x : Handle) (m : Method) (body : Option (List UInt8)) :
    Result × Session :=
  let (o, s) := s.execute x m body
  (result o fun _ => .done, s)

def read (s : Session) (x : Handle) (shape : Json.Shape) : Result × Session :=
  let (o, s) := s.execute x .get none
  (result o fun body => ofExcept (valueOf shape body) .value, s)

def derived (x : Handle) (d : Derivation) : Handle :=
  ⟨x.location.derive d, x.client, Watch.System.new, false⟩

def addDerived (s : Session) (x : Handle) (d : Derivation) : Result × Session :=
  (.handle s.handles.length, s.addHandle (derived x d))

/-- Appends a value under a key that the server makes up; the new handle is that key's. -/
def push (s : Session) (x : Handle) (j : Json) : Result × Session :=
  match s.execute x .post (some (bodyOf j)) with
  | (.failed f, s) => (.failed f, s)
  | (.nothing, s) => (.nothing, s)
  | (.panicked, s) => (.panicked, s)
  | (.done body, s) =>
      match PushedKey.ofBytes body with
      | .error f => (.failed (.json f), s)
      | .ok name => s.addDerived x (.child name)

def step (w : Watch.System) (m : Watch.Move) : Watch.System :=
  (w.fire m).getD w

def answerOf : Outcome Answer → Option (Except Failure Answer)
  | .done a => some (.ok a)
  | .failed f => some (.error f)
  | .nothing | .panicked => none

def answered (w : Watch.System) (call : Nat) (sent : Exchange.Sent) : Watch.System :=
  match answerOf sent.outcome with
  | none => w
  | some a => if sent.late then w else (step w (.call call (.answer a))).rest

/-- Goes on with a call whose request is issued. A panic breaks it off where it would wait for the
answer. -/
def goOn (w : Watch.System) (call : Nat) (sent : Exchange.Sent) : Watch.System :=
  if sent.outcome.isPanic then step w (.call call .abandon) else answered w call sent

def openWatch (s : Session) (h : Nat) (x : Handle) (capacity : Option Nat) (replicating : Bool) :
    Result × Session :=
  let call := x.watch.calls.length
  let opened := step x.watch (.openCall capacity replicating)
  match x.location.request .get Request.eventStream (s.userAgent x) none with
  | .error f =>
      (.call call, s.setHandle h { x with watch := step opened (.call call (.reject f)) })
  | .ok r =>
      let w := opened.rest
      if (w.calls[call]?).any Watch.Call.isPending then
        let (sent, t) := s.send x r
        (if sent.outcome.isPanic then .panicked else .call call,
          t.setHandle h { x with watch := goOn w call sent })
      else (.call call, s.setHandle h { x with watch := w })

def awaitWatch (s : Session) (h : Nat) (x : Handle) (call : Nat) : Result × Session :=
  let late := Except.error (Failure.timeout Exchange.elapsedText)
  let w := (step x.watch (.call call (.answer late))).rest
  let r : Result := match (w.calls[call]?).bind Watch.Call.result? with
    | some r => ofExcept r fun _ => .done
    | none => .nothing
  (r, s.setHandle h { x with watch := w })

def stop (s : Session) (h : Nat) (x : Handle) (times : Nat) : Result × Session :=
  let w := (List.replicate times Watch.Move.openStop).foldl step x.watch
  (.done, s.setHandle h { x with watch := w.rest })

def receive (s : Session) (h : Nat) (x : Handle) (call : Nat) : Result × Session :=
  let w := x.watch.rest
  match w.calls[call]? with
  | none => (.noHandle, s)
  | some c =>
      match c.channel.take? with
      | some (d, _) =>
          (.delivery d, s.setHandle h { x with watch := (step w (.call call .receive)).rest })
      | none =>
          (if c.channel.isClosed then .closed else .nothing, s.setHandle h { x with watch := w })

def dropReceiver (s : Session) (h : Nat) (x : Handle) (call : Nat) : Result × Session :=
  (.done, s.setHandle h { x with watch := (step x.watch (.call call .dropReceiver)).rest })

def drop (s : Session) (h : Nat) (x : Handle) : Result × Session :=
  (.done, s.setHandle h { x with watch := (step x.watch .release).rest, dropped := true })

/-- The handle an operation is made at. What a watch has sent can be taken or given up even when
its handle has been dropped. -/
def target? (s : Session) (h : Nat) : Operation → Option Handle
  | .receive _ | .dropReceiver _ => s.handles[h]?
  | _ => s.handle? h

def perform (s : Session) (h : Nat) (op : Operation) : Result × Session :=
  match s.target? h op with
  | none => (.noHandle, s)
  | some x =>
      match op with
      | .adjust a =>
          (.done, s.setHandle h { x with location := x.location.updateQuery (·.adjust a) })
      | .derive d => s.addDerived x d
      | .setTimeout d =>
          (.done, { s with
            clients := s.clients.modify x.client fun c =>
              { c with traffic := c.traffic.setBudget d } })
      | .setAllowance a =>
          (.done, { s with
            clients := s.clients.modify x.client fun c =>
              { c with traffic := c.traffic.setAllowance a } })
      | .read shape => s.read x shape
      | .replace j => s.write x .put (some (bodyOf j))
      | .merge j => s.write x .patch (some (bodyOf j))
      | .remove => s.write x .delete none
      | .push j => s.push x j
      | .openWatch capacity replicating => s.openWatch h x capacity replicating
      | .awaitWatch call => s.awaitWatch h x call
      | .stop times => s.stop h x times
      | .receive call => s.receive h x call
      | .dropReceiver call => s.dropReceiver h x call
      | .drop => s.drop h x

/-- The results of operations that a program makes one after another, and what they leave. A panic
ends the program, and nothing behind it is done. -/
def run (s : Session) : List (Nat × Operation) → List Result × Session
  | [] => ([], s)
  | (h, op) :: rest =>
      match s.perform h op with
      | (.panicked, s) => ([.panicked], s)
      | (r, s) =>
          let (results, s) := run s rest
          (r :: results, s)

end Session

end LiveTree
