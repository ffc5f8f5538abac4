import LiveTree.Proofs.Stream.Polling
import LiveTree.Watch.Pump

namespace LiveTree

namespace Answer

/-- What the body of an answer says. Where it breaks off is one more failure, if it comes so far. -/
def items (a : Answer) : List Stream.Item :=
  let told := Stream.Account.ofBytes a.pieces.flatten
  match a.ending with
  | .closed | .held => told.items
  | .broken chain =>
      if told.status = .reading then
        told.items ++ [.error (Failure.ofChain chain Exchange.bodyText)]
      else told.items

/-- Whether the stream of an answer comes to an end. -/
def Ends (a : Answer) : Prop :=
  a.ending ≠ .held ∨ ∃ i ∈ a.items, Stream.isFinal i = true

theorem items_pairwise (a : Answer) : a.items.Pairwise fun i _ => Stream.isFinal i = false := by
  obtain ⟨hp, hr⟩ := Stream.Account.ofLines_isFinal [] (Stream.completeLines a.pieces.flatten)
  rw [items]
  split
  · exact hp
  · exact hp
  · split
    · next hs =>
        refine List.pairwise_append.2 ⟨hp, List.pairwise_singleton .., ?_⟩
        intro i hi _ _
        exact hr hs i hi
    · exact hp

theorem splitBody_pieces (pieces : List (List UInt8)) (rest : List Stream.Piece) :
    Stream.splitBody (pieces.map .ok ++ rest) =
      (pieces.flatten ++ (Stream.splitBody rest).1, (Stream.splitBody rest).2) := by
  induction pieces with
  | nil => rfl
  | cons chunk pieces ih => simp [Stream.splitBody, ih]

theorem toCome_sourceOf (a : Answer) : (Exchange.sourceOf a).toCome = a.items := by
  obtain ⟨hi, hs⟩ := Stream.Transcript.ofBytes_eq a.pieces.flatten
  have hw := splitBody_pieces a.pieces []
  simp only [Stream.splitBody, List.append_nil] at hw
  rw [Exchange.sourceOf, items]
  cases a.ending with
  | closed => simp [Stream.Source.toCome_ofBody, Stream.itemsOf, hw, hi]
  | held => simp [Stream.Source.toCome_ofOpenBody, Stream.itemsOf, hw, hi]
  | broken chain =>
      simp [Stream.Source.toCome_ofBody, Stream.itemsOf, splitBody_pieces, Stream.splitBody, hi, hs]

theorem leftOpen_sourceOf (a : Answer) :
    (Exchange.sourceOf a).leftOpen = true ↔ a.ending = .held := by
  rw [Exchange.sourceOf]
  cases a.ending <;> simp [Stream.Source.ofBody, Stream.Source.ofOpenBody]

theorem settled_sourceOf (a : Answer) : (Exchange.sourceOf a).decoder.Settled := by
  rw [Exchange.sourceOf]
  cases a.ending <;> exact Stream.Decoder.settled_new

end Answer

namespace Watch

/-- The event of a change: its kind, its path and its data. -/
def eventOf? : Stream.Item → Option Event
  | .ok (.change kind c) => some { kind := kind, path := c.path, data := c.data, snapshot := none }
  | _ => none

def failureOf? : Stream.Item → Option Failure
  | .ok (.change _ _) | .ok .keepAlive => none
  | .ok (.cancel reason) => some (.streamCancelled reason)
  | .ok (.authRevoked reason) => some (.authRevoked reason)
  | .error f => some f

/-- Each event with the value of the replica that has taken in all events up to it. -/
def stamped (replica : Option Replica) (events : List Event) : List Event :=
  events.mapIdx fun k e =>
    { e with snapshot := replica.map fun r => ((events.take (k + 1)).foldl Replica.apply r).value }

/-- What a watch has to deliver of the items of its stream: the events, and the failure that it ends
with. The replica, if there is one, is empty at first. -/
def expected (replicating : Bool) (items : List Stream.Item) : List Delivery :=
  let replica := if replicating then some Replica.new else none
  (stamped replica (items.filterMap eventOf?)).map .ok ++
    (items.findSome? failureOf?).toList.map .error

theorem failureOf?_isSome (i : Stream.Item) : (failureOf? i).isSome = Stream.isFinal i := by
  obtain f | n := i
  · rfl
  · cases n <;> rfl

theorem stamped_cons (replica : Option Replica) {e : Event} (he : e.snapshot = none)
    (events : List Event) :
    stamped replica (e :: events) =
      (withSnapshot replica e).1 :: stamped (withSnapshot replica e).2 events := by
  rw [stamped, List.mapIdx_cons]
  cases replica with
  | none =>
      obtain ⟨kind, path, data, snapshot⟩ := e
      obtain rfl : snapshot = none := he
      rfl
  | some r => rfl

theorem deliveries_eq {items : List Stream.Item}
    (h : items.Pairwise fun i _ => Stream.isFinal i = false) (replica : Option Replica) :
    deliveries replica items =
      (stamped replica (items.filterMap eventOf?)).map .ok ++
        (items.findSome? failureOf?).toList.map .error := by
  induction items generalizing replica with
  | nil => rfl
  | cons i rest ih =>
      obtain ⟨hi, hrest⟩ := List.pairwise_cons.1 h
      have hlast (hf : Stream.isFinal i = true) : rest = [] := by
        apply List.eq_nil_iff_forall_not_mem.2
        intro j hj
        simp [hi j hj] at hf
      rw [deliveries]
      obtain f | n := i
      · simp [reaction, hlast rfl, eventOf?, failureOf?, stamped]
      · cases n with
        | change kind c =>
            have he : eventOf? (.ok (.change kind c)) = some (Event.ofChange kind c) := rfl
            have hf : failureOf? (.ok (.change kind c)) = none := rfl
            simp only [reaction, List.filterMap_cons, he, List.findSome?_cons, hf]
            rw [stamped_cons replica rfl, ih hrest]
            rfl
        | keepAlive =>
            have he : eventOf? (.ok .keepAlive) = none := rfl
            have hf : failureOf? (.ok .keepAlive) = none := rfl
            simp only [reaction, List.filterMap_cons, he, List.findSome?_cons, hf]
            exact ih hrest replica
        | cancel reason => simp [reaction, hlast rfl, eventOf?, failureOf?, stamped]
        | authRevoked reason => simp [reaction, hlast rfl, eventOf?, failureOf?, stamped]

theorem exists_error_of_isFinal {items : List Stream.Item} {i : Stream.Item} (hi : i ∈ items)
    (hf : Stream.isFinal i = true) (replicating : Bool) :
    ∃ f, .error f ∈ expected replicating items := by
  cases hs : items.findSome? failureOf? with
  | none =>
      have hn : failureOf? i = none := List.findSome?_eq_none_iff.1 hs i hi
      simp [← failureOf?_isSome, hn] at hf
  | some f => exact ⟨f, by simp [expected, hs]⟩

end Watch

end LiveTree
