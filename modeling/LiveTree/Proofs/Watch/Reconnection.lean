import LiveTree.Proofs.Watch.Acceptance

namespace LiveTree.Watch

def Channel.received (c : Channel) : List Delivery :=
  c.sent.take c.taken

theorem Pump.stage_of_isDone {p : Pump} (h : p.isDone = true) :
    p.point = .retiring ∧ p.stage = .retiring p.generation ∨ p.stage = .settled p.generation := by
  obtain ⟨generation, source, replica, point⟩ := p
  cases point with
  | retiring => exact .inl ⟨rfl, rfl⟩
  | closing | ended => exact .inr rfl
  | polling | sending | marking => simp [isDone] at h

namespace System

variable {s : System} {n g : Nat} {c : Call} {p : Pump}

theorem Reachable.sent_of_pump? (h : s.Reachable) (hc : s.calls[n]? = some c)
    (hp : c.pump? = none) : c.channel.sent = [] := by
  let P (c : Call) : Prop := c.pump? = none → c.channel.sent = []
  suffices hs : P c from hs hp
  refine h.call_induction (fun _ _ _ => rfl) ?_ hc
  intro number cancelled u v k c d hf hc hq
  cases hp : c.pump? with
  | none => rw [(CallMove.fire_outside hf hp).1.sent, hc hp]
  | some p =>
      obtain ⟨q, hr, -⟩ := CallMove.fire_pump hf (Call.pump?_eq_some.1 hp)
      exact nomatch hq.symm.trans (Call.pump?_eq_some.2 hr)

theorem Reachable.isDone_of_failed (h : s.Reachable) (hc : s.calls[n]? = some c) {f : Failure}
    (hf : .error f ∈ c.channel.sent) :
    ∃ p, c.point = .pumping p ∧ p.isDone = true ∧ c.channel.senderGone = p.isEnded := by
  cases hp : c.pump? with
  | none => simp [h.sent_of_pump? hc hp] at hf
  | some p =>
      obtain ⟨a, hcarries⟩ := h.carries hc hp
      refine ⟨p, Call.pump?_eq_some.1 hp, ?_, hcarries.closed⟩
      cases hd : p.isDone with
      | true => rfl
      | false => exact absurd hf (hcarries.unfailed hd f)

/-- The one step that is left before a pump which has nothing more to send lets go of the
controller. -/
theorem fire_retire (hc : s.calls[n]? = some c) (hp : c.point = .pumping p)
    (hpoint : p.point = .retiring) :
    s.fire (.call n .retire) =
      some { s with
        controller := s.controller.settle p.generation
        calls := s.calls.set n { c with point := .pumping { p with point := .closing } } } := by
  simp [fire, fireCall?, hc, CallMove.fire, CallMove.retire?, hp, hpoint]

theorem Reachable.refuses_of_retiring (h : s.Reachable) (hr : s.released = false)
    (hn : s.stage n = .retiring g) : s.Refuses :=
  refuses_of_phase_ne hr (h.retained.kept n g hn).phase_ne.1

theorem Reachable.accepts_after_retire (h : s.Reachable) (hr : s.released = false)
    (hb : s.isBusy = false) (hd : ¬ s.Deserted) (hc : s.calls[n]? = some c)
    (hp : c.point = .pumping p) (hpoint : p.point = .retiring) :
    ∃ t, s.fire (.call n .retire) = some t ∧ t.Accepts := by
  refine ⟨_, fire_retire hc hp hpoint, accepts_of_idle hr ?_⟩
  have hn : s.stage n = .retiring p.generation := by
    rw [stage_of_getElem? hc, Call.stage, hp]
    simp [Pump.stage, hpoint]
  obtain ⟨hg, -⟩ := h.retained.kept n _ hn
  show (s.controller.settle p.generation).phase = .idle
  obtain hidle | ⟨k, hphase, -⟩ | hdeserted := h.attended.unless_busy hb
  · exact absurd hidle (h.retained.kept n _ hn).phase_ne.1
  · rw [hg, Controller.settle, if_pos rfl]
    obtain hphase | hphase := hphase <;> rw [show s.controller.phase = _ from hphase] <;> rfl
  · exact absurd hdeserted hd

/-- Once a receiver has taken the failure of its watch, when no other pump runs and nobody waits at
the handle or has deserted it, another watch is accepted exactly if the pump has given up the
controller. That is the next step of the pump, and was made before the channel is closed. -/
theorem accepts_iff_settled (h : s.Reachable) (hr : s.released = false) (hb : s.isBusy = false)
    (hd : ¬ s.Deserted) {f : Failure} (hc : s.calls[n]? = some c)
    (hf : .error f ∈ c.channel.received) (hothers : ∀ k, k ≠ n → (s.stage k).running? = none) :
    (s.Accepts ↔ ∃ g, s.stage n = .settled g) ∧
      (¬ s.Accepts → s.Refuses ∧ ∃ t, s.fire (.call n .retire) = some t ∧ t.Accepts) ∧
        (c.channel.senderGone = true → s.Accepts) := by
  obtain ⟨p, hp, hdone, hgone⟩ := h.isDone_of_failed hc (List.mem_of_mem_take hf)
  have hstage : s.stage n = p.stage := by rw [stage_of_getElem? hc, Call.stage, hp]
  obtain ⟨hpoint, hretiring⟩ | hsettled := Pump.stage_of_isDone hdone
  · have hrefuses := h.refuses_of_retiring hr (hstage.trans hretiring)
    refine ⟨⟨fun ha => absurd ha hrefuses.not_accepts, ?_⟩, fun _ => ⟨hrefuses, ?_⟩, ?_⟩
    · rintro ⟨g, hg⟩
      rw [hstage, hretiring] at hg
      cases hg
    · exact h.accepts_after_retire hr hb hd hc hp hpoint
    · intro hclosed
      simp [hgone, Pump.isEnded, hpoint] at hclosed
  · have haccepts : s.Accepts := by
      apply accepts_of_idle hr
      obtain hidle | ⟨k, -, hk⟩ | hdeserted := h.attended.unless_busy hb
      · exact hidle
      · by_cases hkn : k = n
        · rw [hkn, hstage, hsettled] at hk
          cases hk
        · rw [hothers k hkn] at hk
          cases hk
      · exact absurd hdeserted hd
    exact ⟨iff_of_true haccepts ⟨_, hstage.trans hsettled⟩, fun hn => absurd haccepts hn,
      fun _ => haccepts⟩

/-- A watch that the server cancels, up to the moment when the receiver has taken the failure. -/
def cancelledWatch : List Move :=
  let body : List UInt8 := Text.Utf8.encode "event: cancel\n\n".toList
  [.openCall none true, .call 0 .enter, .call 0 .issue,
    .call 0 (.answer (.ok ⟨200, [body], .held, .utf8⟩)), .call 0 .establish, .call 0 .poll,
    .call 0 .mark, .call 0 .look, .call 0 .offer, .call 0 .receive]

/-- The receiver has the failure of the only watch, and the pump is still to give up the
controller. -/
theorem accepts_iff_settled_retiring : ∃ (s t : System) (c : Call),
    new.run cancelledWatch = some s ∧ s.calls = [c] ∧
      c.channel.received = [.error (.streamCancelled none)] ∧ s.phase = .failed ∧ s.Refuses ∧
        s.fire (.call 0 .retire) = some t ∧ t.Accepts := by
  let s : System := (new.run cancelledWatch).get (by decide +kernel)
  let c : Call := (s.calls[0]?).get (by decide +kernel)
  have h : new.run cancelledWatch = some s := (Option.some_get _).symm
  have hc : s.calls[0]? = some c := (Option.some_get _).symm
  have hone : s.calls.length = 1 := by decide +kernel
  have hcalls : s.calls = [c] := by
    obtain ⟨b, hb⟩ := List.length_eq_one_iff.1 hone
    rw [hb] at hc ⊢
    rw [Option.some.inj hc]
  have hreceived : c.channel.received = [.error (.streamCancelled none)] := rfl
  have hphase : s.phase = .failed := by decide +kernel
  have hd : ¬ s.Deserted := by
    rintro (⟨-, hp, -, -⟩ | ⟨-, hp, -⟩) <;> simp [hphase] at hp
  have hothers (k : Nat) (hk : k ≠ 0) : (s.stage k).running? = none := by
    rw [stage, List.getElem?_eq_none (by omega)]
    rfl
  obtain ⟨hiff, hrefused, -⟩ := accepts_iff_settled ⟨_, h⟩ (by decide +kernel) (by decide +kernel)
    hd hc (hreceived ▸ List.mem_singleton_self _) hothers
  have hn : ¬ s.Accepts := by
    rw [accepts_iff (by decide +kernel), hphase]
    exact nofun
  obtain ⟨hrefuses, t, ht, haccepts⟩ := hrefused hn
  exact ⟨s, t, c, h, hcalls, hreceived, hphase, hrefuses, ht, haccepts⟩

/-- There is a moment at which a receiver has the failure of the only watch, nobody has ever called
a stop, and another watch is refused. -/
theorem not_accepts_after_failure : ¬ ∀ (s : System) (c : Call) (f : Failure), s.Reachable →
    s.released = false → s.calls = [c] → s.stops = [] → .error f ∈ c.channel.received →
      s.Accepts := by
  intro hclaim
  let s : System := (new.run cancelledWatch).get (by decide +kernel)
  let c : Call := (s.calls.head?).get (by decide +kernel)
  have hcalls : s.calls = [c] := by
    obtain ⟨b, hb⟩ := List.length_eq_one_iff.1 (show s.calls.length = 1 by decide +kernel)
    have hc : s.calls.head? = some c := (Option.some_get _).symm
    rw [hb] at hc ⊢
    rw [Option.some.inj hc]
  have hreceived : c.channel.received = [.error (.streamCancelled none)] := rfl
  have hstops : s.stops = [] := List.isEmpty_iff.1 (by decide +kernel)
  have haccepts := hclaim s c _ ⟨_, (Option.some_get _).symm⟩ (by decide +kernel) hcalls hstops
    (hreceived ▸ List.mem_singleton_self _)
  rw [accepts_iff (by decide +kernel)] at haccepts
  revert haccepts
  decide +kernel

end System

end LiveTree.Watch
