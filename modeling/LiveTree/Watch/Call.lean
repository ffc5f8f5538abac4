import LiveTree.Watch.Controller
import LiveTree.Watch.Pump

namespace LiveTree.Watch

/-- Where a call to watch stands. It has returned once it is refused or its pump runs. -/
inductive CallPoint where
  | entering
  | awaiting (generation : Nat) (issued : Bool)
  | withdrawing (generation : Nat) (f : Failure)
  | connected (generation : Nat) (a : Answer)
  | pumping (p : Pump)
  | refused (f : Failure)
  | abandoned

structure Call where
  replicating : Bool
  channel : Channel
  point : CallPoint

namespace Call

def new (capacity : Option Nat) (replicating : Bool) : Call :=
  ⟨replicating, Channel.new capacity, .entering⟩

def pump? (c : Call) : Option Pump :=
  match c.point with
  | .pumping p => some p
  | _ => none

def isPending (c : Call) : Bool :=
  match c.point with
  | .entering | .awaiting _ _ | .withdrawing _ _ | .connected _ _ => true
  | .pumping _ | .refused _ | .abandoned => false

def refuse (c : Call) (f : Failure) : Call :=
  { c with channel := c.channel.dropSender, point := .refused f }

def hasEndedPump (c : Call) : Bool :=
  match c.point with
  | .pumping p => p.isEnded
  | _ => false

def result? (c : Call) : Option (Except Failure Unit) :=
  match c.point with
  | .pumping _ => some (.ok ())
  | .refused f => some (.error f)
  | _ => none

end Call

inductive CallMove where
  | reject (f : Failure)
  | enter
  | issue
  | answer (result : Except Failure Answer)
  | withdraw
  | settle
  | establish
  | abandon
  | poll
  | look
  | offer
  | mark
  | retire
  | close
  | receive
  | dropReceiver

namespace CallMove

/-- A call whose request cannot be built is refused before it comes to the controller. -/
def reject? (f : Failure) (c : Call) : Option Call :=
  match c.point with
  | .entering => some (c.refuse f)
  | _ => none

def enter? (number : Nat) (s : Controller) (c : Call) : Option (Controller × Call) :=
  match c.point with
  | .entering =>
      match s.begin? number with
      | some s => some (s, { c with point := .awaiting s.generation false })
      | none => some (s, c.refuse .alreadyWatching)
  | _ => none

def issue? (cancelled : Bool) (c : Call) : Option Call :=
  match c.point with
  | .awaiting g false => if cancelled then none else some { c with point := .awaiting g true }
  | _ => none

def answer? (result : Except Failure Answer) (c : Call) : Option Call :=
  match c.point, result with
  | .awaiting g true, .ok a => some { c with point := .connected g a }
  | .awaiting g true, .error f => some { c with point := .withdrawing g f }
  | _, _ => none

def withdraw? (cancelled : Bool) (c : Call) : Option Call :=
  match c.point with
  | .awaiting g _ => if cancelled then some { c with point := .withdrawing g .stopped } else none
  | _ => none

def settle? (s : Controller) (c : Call) : Option (Controller × Call) :=
  match c.point with
  | .withdrawing g f => some (s.settle g, c.refuse f)
  | _ => none

def establish? (number : Nat) (s : Controller) (c : Call) : Option (Controller × Call) :=
  match c.point with
  | .connected g a =>
      match s.establish? g number with
      | some s => some (s, { c with point := .pumping (Pump.start g a c.replicating) })
      | none => some (s, c.refuse .stopped)
  | _ => none

def abandon? (c : Call) : Option Call :=
  match c.point with
  | .awaiting _ _ => some { c with channel := c.channel.dropSender, point := .abandoned }
  | _ => none

def onPump (f : Pump → Option Pump) (c : Call) : Option Call :=
  match c.point with
  | .pumping p => (f p).map fun p => { c with point := .pumping p }
  | _ => none

def offer? (c : Call) : Option Call :=
  match c.point with
  | .pumping p =>
      (p.offer? c.channel).map fun (p, channel) => { c with channel, point := .pumping p }
  | _ => none

def mark? (s : Controller) (c : Call) : Option (Controller × Call) :=
  match c.point with
  | .pumping p =>
      match p.point with
      | .marking f =>
          some (s.markFailed p.generation,
            { c with point := .pumping { p with point := .sending (.error f) false } })
      | _ => none
  | _ => none

def retire? (s : Controller) (c : Call) : Option (Controller × Call) :=
  match c.point with
  | .pumping p =>
      match p.point with
      | .retiring =>
          some (s.settle p.generation, { c with point := .pumping { p with point := .closing } })
      | _ => none
  | _ => none

def close? (c : Call) : Option Call :=
  match c.point with
  | .pumping p =>
      match p.point with
      | .closing =>
          some { c with
            channel := c.channel.dropSender
            point := .pumping { p with point := .ended } }
      | _ => none
  | _ => none

def receive? (c : Call) : Option Call :=
  c.channel.take?.map fun (_, channel) => { c with channel }

/-- One step of the call of some number; `cancelled` says whether its watch has been. -/
def fire (number : Nat) (cancelled : Bool) (s : Controller) (c : Call) :
    CallMove → Option (Controller × Call)
  | .reject f => (reject? f c).map (s, ·)
  | .enter => enter? number s c
  | .issue => (issue? cancelled c).map (s, ·)
  | .answer result => (answer? result c).map (s, ·)
  | .withdraw => (withdraw? cancelled c).map (s, ·)
  | .settle => settle? s c
  | .establish => establish? number s c
  | .abandon => (abandon? c).map (s, ·)
  | .poll => (onPump (·.poll? cancelled) c).map (s, ·)
  | .look => (onPump (·.look? cancelled) c).map (s, ·)
  | .offer => (offer? c).map (s, ·)
  | .mark => mark? s c
  | .retire => retire? s c
  | .close => (close? c).map (s, ·)
  | .receive => (receive? c).map (s, ·)
  | .dropReceiver => some (s, { c with channel := c.channel.dropReceiver })

end CallMove

inductive StopPoint where
  | entering
  | joining (generation : Nat) (join : Option Join)
  | leaving (generation : Nat)
  | returned
  | abandoned
  deriving DecidableEq, Repr

def StopPoint.isPending : StopPoint → Bool
  | .entering | .joining _ _ | .leaving _ => true
  | .returned | .abandoned => false

inductive StopMove where
  | enter
  | join
  | leave
  | abandon
  deriving DecidableEq, Repr

namespace StopMove

def awaited? (j : Option Join) : Option Nat :=
  j >>= id

/-- One step of a stop: the controller, the watch it cancels, and where it then stands. `hasEnded`
tells which pumps have. -/
def fire (hasEnded : Nat → Bool) (s : Controller) (p : StopPoint) :
    StopMove → Option (Controller × Option Nat × StopPoint)
  | .enter =>
      match p with
      | .entering =>
          match s.beginStop with
          | (.already, cancelled, s) => some (s, cancelled, .returned)
          | (.joining g j, cancelled, s) => some (s, cancelled, .joining g j)
      | _ => none
  | .join =>
      match p with
      | .joining g j =>
          if (awaited? j).all hasEnded then some (s, none, .leaving g) else none
      | _ => none
  | .leave =>
      match p with
      | .leaving g => some (s.finishStop g, none, .returned)
      | _ => none
  | .abandon =>
      match p with
      | .joining _ _ => some (s, none, .abandoned)
      | _ => none

end StopMove

end LiveTree.Watch
