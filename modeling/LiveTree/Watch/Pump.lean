import LiveTree.Watch.Channel

namespace LiveTree.Watch

/-- Where a pump stands. It reports a failure only after it has marked the controller, and drops
its end of the channel only after it has given up the controller. -/
inductive PumpPoint where
  | polling
  | sending (d : Delivery) (looked : Bool)
  | marking (f : Failure)
  | retiring
  | closing
  | ended

structure Pump where
  generation : Nat
  source : Stream.Source
  replica : Option Replica
  point : PumpPoint

namespace Pump

def start (generation : Nat) (a : Answer) (replicating : Bool) : Pump :=
  ⟨generation, Exchange.sourceOf a, firstReplica replicating, .polling⟩

def react (p : Pump) (i : Stream.Item) : Pump :=
  match reaction i with
  | .goOn => { p with point := .polling }
  | .send e =>
      let (e, replica) := withSnapshot p.replica e
      { p with replica, point := .sending (.ok e) false }
  | .fail f => { p with point := .marking f }

/-- Takes the next item off the stream, unless it was cancelled or nothing has come yet. -/
def poll? (p : Pump) (cancelled : Bool) : Option Pump :=
  match p.point with
  | .polling =>
      if cancelled then some { p with point := .retiring }
      else match p.source.poll with
        | (.item i, source) => some ({ p with source }.react i)
        | (.ended, source) => some { p with source, point := .retiring }
        | (.waiting, _) => none
  | _ => none

def look? (p : Pump) (cancelled : Bool) : Option Pump :=
  match p.point with
  | .sending d false =>
      some { p with point := if cancelled then .retiring else .sending d true }
  | _ => none

def afterSending : Delivery → PumpPoint
  | .ok _ => .polling
  | .error _ => .retiring

def offer? (p : Pump) (c : Channel) : Option (Pump × Channel) :=
  match p.point with
  | .sending d true =>
      if c.receiverGone then some ({ p with point := .retiring }, c)
      else if c.hasRoom then some ({ p with point := afterSending d }, c.put d)
      else some ({ p with point := .sending d false }, c)
  | _ => none

def isDone (p : Pump) : Bool :=
  match p.point with
  | .retiring | .closing | .ended => true
  | .polling | .sending _ _ | .marking _ => false

def isEnded (p : Pump) : Bool :=
  match p.point with
  | .ended => true
  | _ => false

end Pump

end LiveTree.Watch
