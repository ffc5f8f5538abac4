import LiveTree.Exchange.Basic
import LiveTree.Replica
import LiveTree.Stream.Transcript

namespace LiveTree.Watch

abbrev Delivery := Except Failure Event

def withSnapshot (replica : Option Replica) (e : Event) : Event × Option Replica :=
  match replica with
  | none => (e, none)
  | some r =>
      let r := r.apply e
      ({ e with snapshot := some r.value }, some r)

inductive Reaction where
  | goOn
  | send (e : Event)
  | fail (f : Failure)
  deriving DecidableEq, Repr

def reaction : Stream.Item → Reaction
  | .error f => .fail f
  | .ok (.change kind c) => .send (Event.ofChange kind c)
  | .ok .keepAlive => .goOn
  | .ok (.cancel reason) => .fail (.streamCancelled reason)
  | .ok (.authRevoked reason) => .fail (.authRevoked reason)

def deliveries (replica : Option Replica) : List Stream.Item → List Delivery
  | [] => []
  | i :: rest =>
      match reaction i with
      | .goOn => deliveries replica rest
      | .send e =>
          let (e, replica) := withSnapshot replica e
          .ok e :: deliveries replica rest
      | .fail f => [.error f]

def firstReplica (replicating : Bool) : Option Replica :=
  if replicating then some Replica.new else none

end LiveTree.Watch
