import LiveTree.Proofs.Watch.Acceptance
import LiveTree.Proofs.Watch.Phases

namespace LiveTree.Watch

def Stage.isLive : Stage → Bool
  | .opening _ | .active _ | .retiring _ => true
  | .outside | .settled _ | .refused => false

theorem Stage.isLive_of_running? {a : Stage} {g : Nat} (h : a.running? = some g) :
    a.isLive = true ∧ a.generation? = some g := by
  obtain rfl | rfl := running?_eq_some.1 h <;> exact ⟨rfl, rfl⟩

theorem StopPoint.isPending_of_waiting {p : StopPoint} {g : Nat} {j : Option Join}
    (h : p = .joining g j ∨ p = .leaving g) : p.isPending = true := by
  obtain rfl | rfl := h <;> rfl

theorem Pump.stage_of_isEnded {p : Pump} (h : p.isEnded = true) : p.stage = .settled p.generation := by
  obtain ⟨generation, source, replica, point⟩ := p
  cases point with
  | ended => rfl
  | polling | sending | marking | retiring | closing => exact nomatch h

namespace System

variable {s t : System} {n g : Nat} {c : Call} {p : Pump}

/-- A controller that is not idle belongs to a call that is live, unless there is a stop. -/
theorem Reachable.exists_live (h : s.Reachable) (ha : s.hasAbandoned = false)
    (hstops : s.stops.any StopPoint.isPending = false) (hp : s.phase ≠ .idle) :
    ∃ k, (s.stage k).isLive = true ∧
      (s.stage k).generation? = some s.controller.generation := by
  cases h.attended with
  | idle hidle => exact absurd hidle hp
  | opening k _ _ hk =>
      have hopening : s.stage k = .opening s.controller.generation := by
        apply hk.resolve_right
        simp [isAbandoned_of_none ha k]
      refine ⟨k, ?_, ?_⟩ <;> rw [hopening] <;> rfl
  | running k _ hk => exact ⟨k, Stage.isLive_of_running? hk⟩
  | stopping k hk =>
      obtain ⟨q, hq, hwaiting⟩ := h.coherent.waiting_of_pending hk (ne_abandoned_of_none ha k)
      apply absurd (StopPoint.isPending_of_waiting hwaiting)
      exact List.any_eq_false.1 hstops q (List.mem_of_getElem? hq)

theorem Reachable.stage_of_closed (h : s.Reachable) (hc : s.calls[n]? = some c)
    (hp : c.point = .pumping p) (hgone : c.channel.senderGone = true) :
    s.stage n = .settled p.generation := by
  obtain ⟨a, hcarries⟩ := h.carries hc (Call.pump?_eq_some.2 hp)
  rw [stage_of_getElem? hc, Call.stage, hp]
  apply Pump.stage_of_isEnded
  rw [← hcarries.closed, hgone]

theorem Reachable.not_live_of_closed (h : s.Reachable) (hc : s.calls[n]? = some c)
    (hgone : c.channel.senderGone = true) : (s.stage n).isLive = false := by
  cases hpump : c.pump? with
  | some p =>
      rw [h.stage_of_closed hc (Call.pump?_eq_some.1 hpump) hgone]
      rfl
  | none =>
      have hpending : c.isPending = false := by
        refine Bool.eq_false_iff.2 fun hpending => ?_
        have huntouched := h.untouched hc hpending
        exact nomatch hgone.symm.trans huntouched.2
      rw [stage_of_getElem? hc]
      obtain ⟨replicating, channel, point⟩ := c
      cases point with
      | pumping => exact nomatch hpump
      | entering | refused | abandoned => rfl
      | awaiting | withdrawing | connected => exact nomatch hpending

theorem stage_of_enter (hp : s.phase = .idle) (hm : s.fire (.call n .enter) = some t) :
    t.stage n = .opening t.controller.generation := by
  obtain ⟨c, d, hc, hf, ht⟩ := fireCall_cases hm
  rw [stage_self hc (by rw [ht])]
  obtain ⟨-, ⟨-, rfl⟩ | ⟨hrefused, -⟩⟩ := CallMove.enter?_eq_some hf
  · rfl
  · have hidle : s.controller.phase = .idle := hp
    rw [Controller.begin?, if_pos hidle] at hrefused
    cases hrefused

/-- From the moment when a pump drops its end of the channel its watch neither streams nor has
failed, and unless a stop is under way the controller is idle or belongs to a newer watch. So whoever
has seen the end of its channel, when no stop and no other watch is under way, can watch again. -/
theorem let_go_of_closed (h : s.Reachable) (hc : s.calls[n]? = some c)
    (hgone : c.channel.senderGone = true) :
    (∀ p, c.point = .pumping p →
      (s.controller.generation = p.generation → s.phase ≠ .streaming ∧ s.phase ≠ .failed) ∧
      (s.hasAbandoned = false → s.stops.any StopPoint.isPending = false →
        s.phase = .idle ∨ p.generation < s.controller.generation)) ∧
    (s.hasAbandoned = false → s.stops.any StopPoint.isPending = false →
      (∀ k, k ≠ n → (s.stage k).isLive = false) →
        (s.released = false → s.Accepts) ∧
        ∀ k t, s.fire (.call k .enter) = some t → t.stage k = .opening t.controller.generation) := by
  have hdead : (s.stage n).isLive = false := h.not_live_of_closed hc hgone
  constructor
  · intro p hp
    have hown : (s.stage n).generation? = some p.generation := by
      rw [h.stage_of_closed hc hp hgone]
      rfl
    -- the controller could be held for this watch only by its own call, which is settled
    have hnone {k : Nat} (hg : s.controller.generation = p.generation)
        (hlive : (s.stage k).isLive = true)
        (hk : (s.stage k).generation? = some s.controller.generation) : False := by
      have hkn : k = n := h.coherent.numbered.distinct k n p.generation (hg ▸ hk) hown
      rw [hkn, hdead] at hlive
      exact nomatch hlive
    constructor
    · intro hg
      refine not_or.1 fun hphase => ?_
      obtain ⟨k, hk⟩ := h.attended.running_of_phase hphase
      obtain ⟨hlive, hk⟩ := Stage.isLive_of_running? hk
      exact hnone hg hlive hk
    · intro ha hstops
      by_cases hidle : s.phase = .idle
      · exact .inl hidle
      · obtain ⟨k, hlive, hk⟩ := h.exists_live ha hstops hidle
        have hle := h.coherent.numbered.bounded n p.generation hown
        exact .inr (Nat.lt_of_le_of_ne hle fun hg => hnone hg.symm hlive hk)
  · intro ha hstops hothers
    have hidle : s.phase = .idle := by
      refine Decidable.byContradiction fun hphase => ?_
      obtain ⟨k, hlive, -⟩ := h.exists_live ha hstops hphase
      by_cases hkn : k = n
      · rw [hkn, hdead] at hlive
        exact nomatch hlive
      · rw [hothers k hkn] at hlive
        exact nomatch hlive
    exact ⟨fun hr => accepts_of_idle hr hidle, fun k t hm => stage_of_enter hidle hm⟩

/-- A stop takes over a watch that has failed, and the pump drops the channel before the stop has
returned. Once it has, another watch is accepted. -/
theorem let_go_of_closed_stopped : ∃ (s t : System) (c d : Call), s.Reachable ∧
    s.calls[0]? = some c ∧ c.channel.isClosed = true ∧ s.controller.generation = 1 ∧
      s.phase = .stopping ∧ (s.phase ≠ .streaming ∧ s.phase ≠ .failed) ∧
    s.run [.stop 0 .join, .stop 0 .leave] = some t ∧ t.calls[0]? = some d ∧
      d.channel.isClosed = true ∧ (t.phase = .idle ∨ 1 < t.controller.generation) ∧ t.Accepts := by
  let body : List UInt8 := Text.Utf8.encode "event: cancel\n\n".toList
  let moves : List Move := [.openCall (some 1) true, .call 0 .enter, .call 0 .issue,
    .call 0 (.answer (.ok ⟨200, [body], .held, .utf8⟩)), .call 0 .establish, .call 0 .poll, .call 0 .mark,
    .call 0 .look, .call 0 .offer, .openStop, .stop 0 .enter, .call 0 .retire, .call 0 .close,
    .call 0 .receive]
  let s : System := (new.run moves).get (by decide +kernel)
  let t : System := (s.run [.stop 0 .join, .stop 0 .leave]).get (by decide +kernel)
  let c : Call := (s.calls[0]?).get (by decide +kernel)
  let d : Call := (t.calls[0]?).get (by decide +kernel)
  let p : Pump := c.pump?.get (by decide +kernel)
  let q : Pump := d.pump?.get (by decide +kernel)
  have hs : s.Reachable := ⟨moves, (Option.some_get _).symm⟩
  have ht : s.run [.stop 0 .join, .stop 0 .leave] = some t := (Option.some_get _).symm
  have hc : s.calls[0]? = some c := (Option.some_get _).symm
  have hd : t.calls[0]? = some d := (Option.some_get _).symm
  have hp : c.point = .pumping p := Call.pump?_eq_some.1 (Option.some_get _).symm
  have hq : d.point = .pumping q := Call.pump?_eq_some.1 (Option.some_get _).symm
  have hclosed : c.channel.isClosed = true ∧ d.channel.isClosed = true := by decide +kernel
  have hgeneration : s.controller.generation = 1 ∧ p.generation = 1 ∧ q.generation = 1 := by
    decide +kernel
  have hphase : s.phase = .stopping := by decide +kernel
  have hothers (k : Nat) (hk : k ≠ 0) : (t.stage k).isLive = false := by
    have hone : t.calls.length = 1 := by decide +kernel
    rw [stage, List.getElem?_eq_none (by omega)]
    rfl
  obtain ⟨hown, -⟩ := let_go_of_closed hs hc (by decide +kernel)
  obtain ⟨hlater, haccepts⟩ := let_go_of_closed (hs.run ht) hd (by decide +kernel)
  have hover : t.phase = .idle ∨ q.generation < t.controller.generation :=
    (hlater q hq).2 (by decide +kernel) (by decide +kernel)
  rw [hgeneration.2.2] at hover
  obtain ⟨hagain, -⟩ := haccepts (by decide +kernel) (by decide +kernel) hothers
  exact ⟨s, t, c, d, hs, hc, hclosed.1, hgeneration.1, hphase,
    (hown p hp).1 (hgeneration.1.trans hgeneration.2.1.symm), ht, hd, hclosed.2, hover,
    hagain (by decide +kernel)⟩

end System

end LiveTree.Watch
