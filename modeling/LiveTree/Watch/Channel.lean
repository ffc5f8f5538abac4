import LiveTree.Watch.Delivery

namespace LiveTree.Watch

structure Channel where
  capacity : Option Nat
  sent : List Delivery
  taken : Nat
  senderGone : Bool
  receiverGone : Bool

namespace Channel

def new (capacity : Option Nat) : Channel :=
  ⟨capacity, [], 0, false, false⟩

def waiting (c : Channel) : List Delivery :=
  c.sent.drop c.taken

def hasRoom (c : Channel) : Bool :=
  match c.capacity with
  | none => true
  | some n => c.waiting.length < n

def put (c : Channel) (d : Delivery) : Channel :=
  { c with sent := c.sent ++ [d] }

def take? (c : Channel) : Option (Delivery × Channel) :=
  match c.waiting with
  | [] => none
  | d :: _ => if c.receiverGone then none else some (d, { c with taken := c.taken + 1 })

def dropSender (c : Channel) : Channel :=
  { c with senderGone := true }

def dropReceiver (c : Channel) : Channel :=
  { c with receiverGone := true }

def isClosed (c : Channel) : Bool :=
  c.senderGone && c.waiting.isEmpty

theorem waiting_of_take? {c e : Channel} {d : Delivery} (h : c.take? = some (d, e)) :
    c.waiting = d :: e.waiting := by
  rw [take?] at h
  split at h
  · simp at h
  · next first rest hw =>
      split at h
      · simp at h
      · obtain ⟨rfl, rfl⟩ := Prod.mk.inj (Option.some.inj h)
        simp only [waiting] at hw ⊢
        rw [← List.drop_drop, hw, List.drop_one, List.tail_cons]

end Channel

end LiveTree.Watch
