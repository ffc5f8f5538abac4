import LiveTree.Proofs.Stream.Staying
import LiveTree.Proofs.Watch.Completion
import LiveTree.Watch.Schedule

namespace LiveTree.Watch

open LiveTree.Stream (Source isFinal)

theorem sourceSize_ge (s : Source) :
    (Stream.splitBody s.body).1.length + (Stream.splitBody s.body).2.toList.length +
      (s.decoder.buffer.bytes.length + s.decoder.ready.length + 2) ≤ sourceSize s := by
  rw [sourceSize]
  generalize s.decoder.buffer.bytes.length + s.decoder.ready.length + 2 = own
  induction s.body with
  | nil => simp [Stream.splitBody]
  | cons piece body ih =>
      cases piece with
      | error f =>
          have hpiece : pieceSize (.error f) = 1 := rfl
          simp only [Stream.splitBody, List.foldr_cons, hpiece, Option.toList_some,
            List.length_nil, List.length_singleton]
          omega
      | ok chunk =>
          have hpiece : pieceSize (.ok chunk) = chunk.length + 1 := rfl
          simp only [Stream.splitBody, List.foldr_cons, hpiece, List.length_append]
          omega

theorem length_toCome_lt (s : Source) : s.toCome.length + 1 < sourceSize s := by
  have hsize := sourceSize_ge s
  have hforesee := Source.length_foresee_le s.decoder (Stream.splitBody s.body).1
  rw [Source.toCome]
  split
  · omega
  · rw [Stream.Transcript.itemsWith]
    split
    · rw [List.length_append, List.length_map]
      omega
    · omega

theorem length_deliveries_le (replica : Option Replica) (items : List Stream.Item) :
    (deliveries replica items).length ≤ items.length := by
  induction items generalizing replica with
  | nil => exact Nat.le_refl _
  | cons i items ih =>
      rw [deliveries]
      cases reaction i with
      | goOn => exact Nat.le_succ_of_le (ih replica)
      | send e => exact Nat.succ_le_succ (ih (withSnapshot replica e).2)
      | fail f => exact Nat.succ_le_succ (Nat.zero_le _)

theorem exists_fail_of_isFinal {i : Stream.Item} (h : isFinal i = true) :
    ∃ f, reaction i = .fail f := by
  obtain f | n := i
  · exact ⟨f, rfl⟩
  · cases n with
    | change | keepAlive => exact nomatch h
    | cancel | authRevoked => exact ⟨_, rfl⟩

namespace Pump

variable {a : Answer} {p q : Pump} {c e : Channel} {s t : Controller} {d : Option Delivery}

theorem length_toCome_le (p : Pump) : p.toCome.length ≤ p.source.toCome.length + 1 := by
  have hrest := length_deliveries_le p.replica p.source.toCome
  rw [toCome]
  split
  · exact Nat.le_succ_of_le hrest
  · exact Nat.succ_le_succ hrest
  all_goals simp

theorem work_le (p : Pump) : p.work ≤ pumpSteps (sourceSize p.source) := by
  have hsize := length_toCome_lt p.source
  rw [work, pumpSteps]
  split <;> omega

def hasLooked (p : Pump) : Bool :=
  match p.point with
  | .sending _ looked => looked
  | _ => false

theorem hasLooked_react (p : Pump) (i : Stream.Item) : (p.react i).hasLooked = false := by
  rw [react]
  cases reaction i <;> rfl

/-- Every step of a pump that is left alone brings it nearer to its end, unless it finds the channel
full or is the receiver's. -/
theorem Step.work_lt (h : p.Step false s c d t q e) (hd : p.source.decoder.Settled)
    (hroom : p.hasLooked = false ∨ c.hasRoom = true) (htaken : e.taken = c.taken)
    (hreceiver : e.receiverGone = false) : q.work < p.work := by
  cases h with
  | giveUp _ hc => exact nomatch hc
  | lose _ _ hc => exact absurd hc (by simp [hreceiver])
  | wait d hp _ hr => simp [hasLooked, hp, hr] at hroom
  | dropReceiver => exact nomatch hreceiver
  | receive e d hc =>
      obtain ⟨rfl, -⟩ := Channel.take?_eq_some hc
      exact absurd htaken (Nat.succ_ne_self _)
  | take i source hp hi =>
      have hleaves := (Source.poll_spec hd).2.2
      rw [hi] at hleaves
      exact work_react hp hleaves
  | deliver d hp => exact work_afterSending hp
  | look d hp => cases d <;> simp [work, hp]
  | finish | mark | retire | close => simp [work, *]

def Minds (p : Pump) (c : Channel) : Prop :=
  match p.point with
  | .polling | .sending (.ok _) _ => p.source.Stays
  | .sending (.error _) _ | .marking _ => True
  | .retiring | .closing | .ended => p.source.leftOpen = true → ∃ f, .error f ∈ c.sent

structure Attends (a : Answer) (p : Pump) (c : Channel) : Prop where
  held : a.ending = .held → p.source.leftOpen = true
  minds : p.Minds c

theorem attends_start (generation : Nat) (replicating : Bool) (c : Channel) :
    (start generation a replicating).Attends a c := by
  refine ⟨a.leftOpen_sourceOf.2, Source.stays_of_not_isOver ?_⟩
  rw [start, Exchange.sourceOf]
  cases a.ending <;> simp [Source.isOver, Source.ofBody, Source.ofOpenBody, Stream.Decoder.new]

theorem minds_react {i : Stream.Item} (h : isFinal i = true ∨ p.source.Stays) :
    (p.react i).Minds c := by
  rw [react]
  obtain hf | hs := h
  · obtain ⟨f, hf⟩ := exists_fail_of_isFinal hf
    rw [hf]
    exact trivial
  · cases reaction i with
    | goOn | send => exact hs
    | fail => exact trivial

theorem Attends.step (h : p.Attends a c) (hd : p.source.decoder.Settled)
    (hs : p.Step false s c d t q e) (hc : c.receiverGone = false) : q.Attends a e := by
  obtain ⟨hheld, hminds⟩ := h
  cases hs with
  | giveUp _ hcancelled => exact nomatch hcancelled
  | lose _ _ hgone => exact absurd hgone (by simp [hc])
  | take i source hp hi =>
      obtain ⟨-, hopen, -⟩ := Source.poll_spec hd
      rw [Minds, hp] at hminds
      have hstays := Source.poll_stays hd hminds
      rw [hi] at hopen hstays
      exact ⟨fun ha => (source_react _ i).symm ▸ hopen.trans (hheld ha), minds_react hstays⟩
  | finish source hp hi =>
      obtain ⟨-, hopen, -⟩ := Source.poll_spec hd
      rw [Minds, hp] at hminds
      have hstays := Source.poll_stays hd hminds
      rw [hi] at hopen hstays
      have hclosed : source.leftOpen = false := hopen.trans hstays
      exact ⟨fun ha => hopen.trans (hheld ha), fun hl => absurd hl (by simp [hclosed])⟩
  | deliver d hp =>
      refine ⟨hheld, ?_⟩
      rw [Minds, hp] at hminds
      cases d with
      | ok event => exact hminds
      | error f => exact fun _ => ⟨f, by simp [Channel.put]⟩
  | look d hp | wait d hp =>
      refine ⟨hheld, ?_⟩
      rw [Minds, hp] at hminds
      cases d <;> exact hminds
  | mark => exact ⟨hheld, trivial⟩
  | retire hp | close hp =>
      rw [Minds, hp] at hminds
      exact ⟨hheld, hminds⟩
  | receive e d ht =>
      obtain ⟨rfl, -⟩ := Channel.take?_eq_some ht
      exact ⟨hheld, hminds⟩
  | dropReceiver => exact ⟨hheld, hminds⟩

theorem Attends.not_isEnded (h : p.Attends a c) (ha : a.ending = .held)
    (hc : ∀ f, .error f ∉ c.sent) : p.isEnded = false := by
  rw [isEnded]
  cases hp : p.point with
  | ended =>
      have hminds := h.minds
      rw [Minds, hp] at hminds
      obtain ⟨f, hf⟩ := hminds (h.held ha)
      exact absurd hf (hc f)
  | polling | sending | marking | retiring | closing => rfl

end Pump

namespace Call

variable {a : Answer} {number : Nat} {s t : Controller} {c d : Call} {p q : Pump} {m : CallMove}

/-- A call whose pump goes by the schedule: it attempts to send only what fits. -/
structure Runs (a : Answer) (c : Call) (p : Pump) : Prop extends Call.Flows a c p where
  attends : p.Attends a c.channel
  room : p.hasLooked = false ∨ c.channel.hasRoom = true
  behind : c.channel.taken ≤ c.channel.sent.length

def next? (number : Nat) (s : Controller) (c : Call) : Option (Controller × Call) :=
  c.nextMove? false >>= fun m => m.fire number false s c

/-- Whether a pump has nothing to do until something is taken off its channel or comes in. -/
def Waits (c : Call) (p : Pump) : Prop :=
  p.Rests ∨ c.channel.hasRoom = false

def Proceeds (a : Answer) (number : Nat) (s : Controller) (c : Call) (p : Pump) : Prop :=
  ∃ t d q, c.next? number s = some (t, d) ∧ d.Runs a q ∧ d.replicating = c.replicating ∧
    d.channel.taken = c.channel.taken ∧ q.work < p.work

theorem Runs.proceeds (h : c.Runs a p) (hm : c.nextMove? false = some m)
    (hf : m.fire number false s c = some (t, d)) (hq : d.point = .pumping q)
    (hreceiver : d.channel.receiverGone = c.channel.receiverGone)
    (hcapacity : d.channel.capacity = c.channel.capacity)
    (htaken : d.channel.taken = c.channel.taken)
    (hsent : c.channel.sent.length ≤ d.channel.sent.length)
    (hroom : q.hasLooked = false ∨ d.channel.hasRoom = true) :
    c.Proceeds a number s p := by
  obtain ⟨r, hr, hreplicating, hstep⟩ := CallMove.fire_pump hf h.point
  obtain rfl : q = r := CallPoint.pumping.inj (hq.symm.trans hr)
  have hd := h.carries.settled
  have hthere := hreceiver.trans h.receiver
  have hnext : c.next? number s = some (t, d) := by rw [next?, hm]; exact hf
  have hflows : d.Flows a q := ⟨hq, h.serves.fire hf, hthere, hcapacity ▸ h.capacity⟩
  have hruns : d.Runs a q :=
    ⟨hflows, h.attends.step hd hstep h.receiver, hroom, htaken ▸ Nat.le_trans h.behind hsent⟩
  exact ⟨t, d, q, hnext, hruns, hreplicating, htaken, hstep.work_lt hd h.room htaken hthere⟩

theorem next?_of_fire_eq_none (hm : c.nextMove? false = some m)
    (hf : m.fire number false s c = none) : c.next? number s = none := by
  rw [next?, hm]
  exact hf

theorem Runs.poll_cases (h : c.Runs a p) (hpp : p.point = .polling) (number : Nat)
    (s : Controller) :
    c.next? number s = none ∧ c.Waits p ∨ c.Proceeds a number s p := by
  have hm : c.nextMove? false = some .poll := by simp [nextMove?, h.point, hpp]
  obtain ⟨-, -, hleaves⟩ := Source.poll_spec h.carries.settled
  cases hpoll : p.source.poll with
  | mk outcome source =>
      rw [hpoll] at hleaves
      cases outcome with
      | item i =>
          exact .inr (h.proceeds hm (CallMove.fire_poll_item h.point hpp hpoll) rfl rfl rfl rfl
            (Nat.le_refl _) (.inl (Pump.hasLooked_react _ i)))
      | ended =>
          exact .inr (h.proceeds hm (CallMove.fire_poll_ended h.point hpp hpoll) rfl rfl rfl rfl
            (Nat.le_refl _) (.inl rfl))
      | waiting =>
          exact .inl ⟨next?_of_fire_eq_none hm (CallMove.fire_poll_waiting h.point hpp hpoll),
            .inl (.inr ⟨hpp, hleaves⟩)⟩

theorem Runs.sending_cases {e : Delivery} {looked : Bool} (h : c.Runs a p)
    (hpp : p.point = .sending e looked) (number : Nat) (s : Controller) :
    c.next? number s = none ∧ c.Waits p ∨ c.Proceeds a number s p := by
  cases looked with
  | true =>
      have hm : c.nextMove? false = some .offer := by simp [nextMove?, h.point, hpp]
      have hroom := h.room.resolve_left (by simp [Pump.hasLooked, hpp])
      have hlength : c.channel.sent.length ≤ (c.channel.put e).sent.length := by
        simp [Channel.put]
      have hlooked : ({ p with point := Pump.afterSending e } : Pump).hasLooked = false := by
        cases e <;> rfl
      exact .inr (h.proceeds hm (CallMove.fire_offer h.point hpp h.receiver hroom) rfl rfl rfl rfl
        hlength (.inl hlooked))
  | false =>
      cases hroom : c.channel.hasRoom with
      | true =>
          have hm : c.nextMove? false = some .look := by simp [nextMove?, h.point, hpp, hroom]
          exact .inr (h.proceeds hm (CallMove.fire_look h.point hpp) rfl rfl rfl rfl
            (Nat.le_refl _) (.inr hroom))
      | false =>
          refine .inl ⟨?_, .inr hroom⟩
          simp [next?, nextMove?, h.point, hpp, hroom, h.receiver]

/-- The schedule lets a call go on unless it has to wait, and every step brings it nearer to that. -/
theorem Runs.next_cases (h : c.Runs a p) (number : Nat) (s : Controller) :
    c.next? number s = none ∧ c.Waits p ∨ c.Proceeds a number s p := by
  cases hpp : p.point with
  | polling => exact h.poll_cases hpp number s
  | sending e looked => exact h.sending_cases hpp number s
  | marking f =>
      have hm : c.nextMove? false = some .mark := by simp [nextMove?, h.point, hpp]
      exact .inr (h.proceeds hm (CallMove.fire_mark h.point hpp) rfl rfl rfl rfl
        (Nat.le_refl _) (.inl rfl))
  | retiring =>
      have hm : c.nextMove? false = some .retire := by simp [nextMove?, h.point, hpp]
      exact .inr (h.proceeds hm (CallMove.fire_retire h.point hpp) rfl rfl rfl rfl
        (Nat.le_refl _) (.inl rfl))
  | closing =>
      have hm : c.nextMove? false = some .close := by simp [nextMove?, h.point, hpp]
      exact .inr (h.proceeds hm (CallMove.fire_close h.point hpp) rfl rfl rfl rfl
        (Nat.le_refl _) (.inl rfl))
  | ended =>
      refine .inl ⟨?_, .inl (.inl (by rw [Pump.isEnded, hpp]))⟩
      simp [next?, nextMove?, h.point, hpp]

theorem Runs.receive {e : Channel} {first : Delivery} (h : c.Runs a p)
    (ht : c.channel.take? = some (first, e)) : ({ c with channel := e } : Call).Runs a p := by
  have hf : CallMove.receive.fire 0 false Controller.new c =
      some (Controller.new, { c with channel := e }) := CallMove.fire_receive ht
  have hserves := h.serves.fire hf
  have hwaiting := Channel.waiting_of_take? ht
  obtain ⟨rfl, -⟩ := Channel.take?_eq_some ht
  obtain ⟨hheld, hminds⟩ := h.attends
  refine ⟨⟨h.point, hserves, h.receiver, h.capacity⟩, ⟨hheld, hminds⟩, h.room.imp_right fun hroom => ?_, ?_⟩
  · rw [Channel.hasRoom] at hroom ⊢
    rw [hwaiting] at hroom
    cases hcapacity : c.channel.capacity with
    | none => rfl
    | some k =>
        simp only [hcapacity, List.length_cons, decide_eq_true_eq] at hroom ⊢
        omega
  · have hlength := congrArg List.length hwaiting
    rw [Channel.waiting, List.length_drop, List.length_cons] at hlength
    change c.channel.taken + 1 ≤ c.channel.sent.length
    omega

end Call

namespace System

def solo (s : Controller) (c : Call) : System :=
  ⟨s, [c], [], [], false⟩

theorem advance?_solo (s : Controller) (c : Call) :
    (solo s c).advance? = (c.next? 0 s).map fun r => solo r.1 r.2 := by
  have hcall : (solo s c).callMove? 0 = (c.next? 0 s).map fun r => solo r.1 r.2 := by
    rw [callMove?, Call.next?]
    cases hm : c.nextMove? false with
    | none => simp [solo, isCancelled, hm]
    | some m => simp [solo, isCancelled, hm, fireCall?]
  have hcalls : (List.range (solo s c).calls.length).findSome? (solo s c).callMove? =
      (solo s c).callMove? 0 := by
    rw [show List.range (solo s c).calls.length = [0] from rfl, List.findSome?_cons]
    cases (solo s c).callMove? 0 <;> rfl
  rw [advance?, hcalls, hcall]
  rfl

variable {a : Answer} {s : Controller} {c : Call} {p : Pump}

theorem advanceBy_solo (fuel : Nat) (h : c.Runs a p) (hf : p.work ≤ fuel) :
    ∃ t d q, advanceBy fuel (solo s c) = solo t d ∧ d.Runs a q ∧ d.Waits q ∧
      d.replicating = c.replicating ∧ d.channel.taken = c.channel.taken := by
  induction fuel generalizing s c p with
  | zero =>
      refine ⟨s, c, p, rfl, h, .inl (.inl ?_), rfl, rfl⟩
      rw [Pump.isEnded]
      rw [Pump.work] at hf
      split at hf <;> simp_all
  | succ fuel ih =>
      rw [advanceBy, advance?_solo]
      obtain ⟨hnone, hwaits⟩ | ⟨t, d, q, hnext, hruns, hreplicating, htaken, hwork⟩ :=
        h.next_cases 0 s
      · rw [hnone]
        exact ⟨s, c, p, rfl, h, hwaits, rfl, rfl⟩
      · rw [hnext]
        obtain ⟨u, e, r, hrest, hruns, hwaits, hr, ht⟩ := ih hruns (by omega)
        exact ⟨u, e, r, hrest, hruns, hwaits, hr.trans hreplicating, ht.trans htaken⟩

theorem rest_solo (h : c.Runs a p) (s : Controller) :
    ∃ t d q, (solo s c).rest = solo t d ∧ d.Runs a q ∧ d.Waits q ∧
      d.replicating = c.replicating ∧ d.channel.taken = c.channel.taken := by
  have hwork : (solo s c).work = pumpSteps (sourceSize p.source) := by
    change c.work = _
    rw [Call.work, h.point]
  exact advanceBy_solo _ h (hwork ▸ p.work_le)

end System

end LiveTree.Watch
