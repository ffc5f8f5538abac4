import LiveTree.Proofs.Watch.Serving

namespace LiveTree.Watch

/-- The steps of a pump, and of the receiver that takes what it has sent. -/
def CallMove.isCarrying : CallMove → Bool
  | .poll | .look | .offer | .mark | .retire | .close | .receive => true
  | .reject _ | .enter | .issue | .answer _ | .withdraw | .settle | .establish | .abandon
  | .dropReceiver => false

namespace Pump

def work (p : Pump) : Nat :=
  match p.point with
  | .polling => 3 * p.source.toCome.length + 3
  | .sending (.ok _) false => 3 * p.source.toCome.length + 5
  | .sending (.ok _) true => 3 * p.source.toCome.length + 4
  | .marking _ => 5
  | .sending (.error _) false => 4
  | .sending (.error _) true => 3
  | .retiring => 2
  | .closing => 1
  | .ended => 0

def Rests (p : Pump) : Prop :=
  p.isEnded = true ∨ p.point = .polling ∧ p.source.toCome = [] ∧ p.source.leftOpen = true

theorem work_react {p : Pump} {i : Stream.Item} {source : Stream.Source}
    (h : p.point = .polling) (hc : p.source.toCome = i :: source.toCome) :
    (({ p with source } : Pump).react i).work < p.work := by
  have hw : p.work = 3 * source.toCome.length + 6 := by
    simp only [work, h, hc, List.length_cons]
    omega
  rw [hw, react]
  cases reaction i <;> simp [work]

theorem work_afterSending {p : Pump} {d : Delivery} (h : p.point = .sending d true) :
    ({ p with point := afterSending d } : Pump).work < p.work := by
  cases d <;> simp [work, afterSending, h]

/-- A pump that rests without having been disturbed has made all its deliveries, and has ended if
its stream does. -/
theorem Carries.rests {replicating : Bool} {a : Answer} {p : Pump} {c : Channel}
    (h : p.Carries replicating a false c) (hc : c.receiverGone = false) (hp : p.Rests) :
    c.sent = expected replicating a.items ∧ (a.Ends → c.senderGone = true) := by
  obtain he | ⟨hpoll, hcome, hopen⟩ := hp
  · have hsent := h.whole_of_undisturbed hc
    rw [toCome_of_isDone (isDone_of_isEnded he), List.append_nil] at hsent
    exact ⟨hsent.symm, fun _ => h.closed.trans he⟩
  · have hnil : p.toCome = [] := by rw [toCome, hpoll, hcome, deliveries]
    have hsent := h.whole_of_undisturbed hc
    rw [hnil, List.append_nil] at hsent
    refine ⟨hsent.symm, ?_⟩
    rintro (hend | ⟨i, hi, hf⟩)
    · exact absurd (h.leftOpen hopen) hend
    · obtain ⟨f, hf⟩ := exists_error_of_isFinal hi hf replicating
      rw [hsent] at hf
      exact absurd hf (h.unfailed (by rw [isDone, hpoll]) f)

end Pump

namespace Channel

theorem length_waiting_put (c : Channel) (d : Delivery) :
    (c.put d).waiting.length ≤ c.waiting.length + 1 := by
  simp only [waiting, put, List.length_drop, List.length_append, List.length_singleton]
  omega

theorem exists_take {c : Channel} (hc : c.capacity ≠ some 0) (hf : c.hasRoom = false)
    (hr : c.receiverGone = false) :
    ∃ d, c.take? = some (d, { c with taken := c.taken + 1 }) ∧
      ({ c with taken := c.taken + 1 } : Channel).waiting.length < c.waiting.length := by
  have hlen : 0 < c.waiting.length := by
    rw [hasRoom] at hf
    cases hcap : c.capacity with
    | none => simp [hcap] at hf
    | some k =>
        simp only [hcap, decide_eq_false_iff_not, Nat.not_lt] at hf
        have hk : k ≠ 0 := fun hk => hc (by rw [hcap, hk])
        omega
  obtain ⟨d, rest, hw⟩ := List.exists_cons_of_length_pos hlen
  have ht : c.take? = some (d, { c with taken := c.taken + 1 }) := by simp [take?, hw, hr]
  refine ⟨d, ht, ?_⟩
  rw [waiting_of_take? ht]
  exact Nat.lt_succ_self _

end Channel

namespace CallMove

variable {number : Nat} {s : Controller} {c : Call} {p : Pump} {source : Stream.Source}
  {i : Stream.Item} {d : Delivery} {f : Failure}

theorem fire_poll_item (h : c.point = .pumping p) (hp : p.point = .polling)
    (hi : p.source.poll = (.item i, source)) :
    poll.fire number false s c =
      some (s, { c with point := .pumping (({ p with source } : Pump).react i) }) := by
  simp [fire, onPump, Pump.poll?, h, hp, hi]

theorem fire_poll_ended (h : c.point = .pumping p) (hp : p.point = .polling)
    (hi : p.source.poll = (.ended, source)) :
    poll.fire number false s c =
      some (s, { c with point := .pumping { p with source, point := .retiring } }) := by
  simp [fire, onPump, Pump.poll?, h, hp, hi]

theorem fire_poll_waiting (h : c.point = .pumping p) (hp : p.point = .polling)
    (hi : p.source.poll = (.waiting, source)) : poll.fire number false s c = none := by
  simp [fire, onPump, Pump.poll?, h, hp, hi]

theorem fire_look (h : c.point = .pumping p) (hp : p.point = .sending d false) :
    look.fire number false s c =
      some (s, { c with point := .pumping { p with point := .sending d true } }) := by
  simp [fire, onPump, Pump.look?, h, hp]

theorem fire_offer (h : c.point = .pumping p) (hp : p.point = .sending d true)
    (hc : c.channel.receiverGone = false) (hr : c.channel.hasRoom = true) :
    offer.fire number false s c =
      some (s, { c with
        channel := c.channel.put d
        point := .pumping { p with point := Pump.afterSending d } }) := by
  simp [fire, offer?, Pump.offer?, h, hp, hc, hr]

theorem fire_mark (h : c.point = .pumping p) (hp : p.point = .marking f) :
    mark.fire number false s c =
      some (s.markFailed p.generation,
        { c with point := .pumping { p with point := .sending (.error f) false } }) := by
  simp [fire, mark?, h, hp]

theorem fire_retire (h : c.point = .pumping p) (hp : p.point = .retiring) :
    retire.fire number false s c =
      some (s.settle p.generation, { c with point := .pumping { p with point := .closing } }) := by
  simp [fire, retire?, h, hp]

theorem fire_close (h : c.point = .pumping p) (hp : p.point = .closing) :
    close.fire number false s c =
      some (s, { c with
        channel := c.channel.dropSender
        point := .pumping { p with point := .ended } }) := by
  simp [fire, close?, h, hp]

theorem fire_receive {e : Channel} (h : c.channel.take? = some (d, e)) :
    receive.fire number false s c = some (s, { c with channel := e }) := by
  simp [fire, receive?, h]

end CallMove

namespace Call

/-- A call whose pump is disturbed neither by a cancellation nor from the other end of its
channel. -/
structure Flows (a : Answer) (c : Call) (p : Pump) : Prop where
  point : c.point = .pumping p
  serves : c.Serves a false
  receiver : c.channel.receiverGone = false
  capacity : c.channel.capacity ≠ some 0

def workload (p : Pump) (c : Channel) : Nat :=
  2 * p.work + c.waiting.length

theorem Flows.carries {a : Answer} {c : Call} {p : Pump} (h : c.Flows a p) :
    p.Carries c.replicating a false c.channel :=
  h.serves.carries (pump?_eq_some.2 h.point)

def Advances (a : Answer) (number : Nat) (s : Controller) (c : Call) (p : Pump) : Prop :=
  ∃ m t d q, CallMove.isCarrying m = true ∧ m.fire number false s c = some (t, d) ∧ d.Flows a q ∧
    d.replicating = c.replicating ∧ workload q d.channel < workload p c.channel

theorem Flows.advances {a : Answer} {number : Nat} {s t : Controller} {c d : Call} {p q : Pump}
    {m : CallMove} (h : c.Flows a p) (hm : m.isCarrying = true)
    (hf : m.fire number false s c = some (t, d)) (hq : d.point = .pumping q)
    (hr : d.channel.receiverGone = c.channel.receiverGone)
    (hc : d.channel.capacity = c.channel.capacity)
    (hw : workload q d.channel < workload p c.channel) : c.Advances a number s p := by
  obtain ⟨-, -, hreplicating, -⟩ := CallMove.fire_pump hf h.point
  have hcapacity : d.channel.capacity ≠ some 0 := hc ▸ h.capacity
  exact ⟨m, t, d, q, hm, hf, ⟨hq, h.serves.fire hf, hr.trans h.receiver, hcapacity⟩,
    hreplicating, hw⟩

theorem Flows.poll_advances {a : Answer} {c : Call} {p : Pump} (h : c.Flows a p)
    (hpp : p.point = .polling) (hp : ¬ p.Rests) (number : Nat) (s : Controller) :
    c.Advances a number s p := by
  obtain ⟨-, -, hleaves⟩ := Stream.Source.poll_spec h.carries.settled
  cases hpoll : p.source.poll with
  | mk outcome source =>
      simp only [hpoll] at hleaves
      cases outcome with
      | item i =>
          have hwork : (({ p with source } : Pump).react i).work < p.work :=
            Pump.work_react hpp hleaves
          refine h.advances rfl (CallMove.fire_poll_item h.point hpp hpoll) rfl rfl rfl ?_
          simp only [workload]
          omega
      | ended =>
          refine h.advances rfl (CallMove.fire_poll_ended h.point hpp hpoll) rfl rfl rfl ?_
          simp only [workload, Pump.work, hpp]
          omega
      | waiting => exact absurd (.inr ⟨hpp, hleaves⟩) hp

theorem Flows.offer_advances {a : Answer} {c : Call} {p : Pump} {d : Delivery} (h : c.Flows a p)
    (hpp : p.point = .sending d true) (number : Nat) (s : Controller) :
    c.Advances a number s p := by
  cases hroom : c.channel.hasRoom with
  | true =>
      have hwork := Pump.work_afterSending hpp
      have hwaiting := c.channel.length_waiting_put d
      refine h.advances rfl (CallMove.fire_offer h.point hpp h.receiver hroom) rfl rfl rfl ?_
      simp only [workload]
      omega
  | false =>
      -- nothing fits into the channel, so that there is something to take out of it
      obtain ⟨first, htake, hwaiting⟩ := Channel.exists_take h.capacity hroom h.receiver
      refine h.advances rfl (CallMove.fire_receive htake) h.point rfl rfl ?_
      simp only [workload]
      omega

theorem Flows.exists_fire {a : Answer} {c : Call} {p : Pump} (h : c.Flows a p) (hp : ¬ p.Rests)
    (number : Nat) (s : Controller) : c.Advances a number s p := by
  cases hpp : p.point with
  | polling => exact h.poll_advances hpp hp number s
  | sending d looked =>
      cases looked with
      | true => exact h.offer_advances hpp number s
      | false =>
          refine h.advances rfl (CallMove.fire_look h.point hpp) rfl rfl rfl ?_
          cases d <;> simp [workload, Pump.work, hpp]
  | marking f =>
      refine h.advances rfl (CallMove.fire_mark h.point hpp) rfl rfl rfl ?_
      simp [workload, Pump.work, hpp]
  | retiring =>
      refine h.advances rfl (CallMove.fire_retire h.point hpp) rfl rfl rfl ?_
      simp [workload, Pump.work, hpp]
  | closing =>
      refine h.advances rfl (CallMove.fire_close h.point hpp) rfl rfl rfl ?_
      simp [workload, Pump.work, hpp, Channel.dropSender, Channel.waiting]
  | ended => exact absurd (.inl (by rw [Pump.isEnded, hpp])) hp

end Call

namespace System

theorem fire_call {s : System} {n : Nat} {c d : Call} {m : CallMove} {t : Controller}
    (hc : s.calls[n]? = some c) (hf : m.fire n (s.isCancelled n) s.controller c = some (t, d)) :
    s.fire (.call n m) = some { s with controller := t, calls := s.calls.set n d } := by
  simp [fire, fireCall?, hc, hf]

theorem exists_run_rests {a : Answer} {s : System} {n : Nat} {c : Call} {p : Pump}
    (hc : s.calls[n]? = some c) (hn : s.isCancelled n = false) (h : c.Flows a p) :
    ∃ (steps : List CallMove) (t : System) (d : Call) (q : Pump),
      (∀ m ∈ steps, m.isCarrying = true) ∧ s.run (steps.map (.call n)) = some t ∧
        t.calls[n]? = some d ∧ d.Flows a q ∧ d.replicating = c.replicating ∧ q.Rests := by
  induction hw : Call.workload p c.channel using Nat.strongRecOn generalizing s c p with
  | ind k ih =>
      by_cases hp : p.Rests
      · exact ⟨[], s, c, p, List.forall_mem_nil _, rfl, hc, h, rfl, hp⟩
      · obtain ⟨m, t, d, q, hm, hf, hd, hr, hlt⟩ := h.exists_fire hp n s.controller
        rw [← hn] at hf
        let v : System := { s with controller := t, calls := s.calls.set n d }
        have hv : s.fire (.call n m) = some v := fire_call hc hf
        have hself : v.calls[n]? = some d :=
          List.getElem?_set_self (List.getElem?_eq_some_iff.1 hc).1
        obtain ⟨steps, u, e, r, hsteps, hu, he, hflows, hreplicating, hrests⟩ :=
          ih _ (hw ▸ hlt) hself hn hd rfl
        refine ⟨m :: steps, u, e, r, List.forall_mem_cons.2 ⟨hm, hsteps⟩, ?_, he, hflows,
          hreplicating.trans hr, hrests⟩
        exact run_cons.2 ⟨v, hv, hu⟩

end System

end LiveTree.Watch
