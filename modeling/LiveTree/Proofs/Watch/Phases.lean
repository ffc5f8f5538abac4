import LiveTree.Proofs.Watch.Attendance

namespace LiveTree.Watch

/-- The phases that a phase can turn into. -/
def Phase.next : Phase → List Phase
  | .idle => [.starting]
  | .starting => [.streaming, .stopping, .idle]
  | .streaming => [.failed, .stopping, .idle]
  | .failed => [.stopping, .idle]
  | .stopping => [.idle]

namespace Controller

theorem Shift.next {s t : Controller} (h : s.Shift t) :
    (t.phase = s.phase ∨ t.phase ∈ s.phase.next) ∧
      t.generation =
        if s.phase = .idle ∧ t.phase = .starting then s.generation + 1 else s.generation := by
  cases h with
  | same | release =>
      refine ⟨.inl rfl, (if_neg ?_).symm⟩
      rintro ⟨hs, ht⟩
      exact nomatch hs.symm.trans ht
  | claim call h =>
      rw [h]
      exact ⟨.inr (List.mem_singleton_self _), rfl⟩
  | stream call h | fail h =>
      rw [h]
      exact ⟨.inr (List.mem_cons_self ..), rfl⟩
  | stop hi hn => cases hp : s.phase <;> simp_all [Phase.next]
  | reset hi => cases hp : s.phase <;> simp_all [Phase.next, Controller.reset]

def Fits (s : Controller) : Prop :=
  match s.phase with
  | .idle => s.cancel = none ∧ s.worker = none ∧ s.stopping = none
  | .starting => s.worker = none ∧ s.stopping = none
  | .streaming | .failed => s.stopping = none
  | .stopping => s.cancel = none ∧ s.worker = none ∧ s.stopping.isSome = true

theorem Shift.fits {s t : Controller} (h : s.Shift t) (hs : s.Fits) : t.Fits := by
  cases h with
  | same => exact hs
  | claim call h =>
      rw [Fits, h] at hs
      exact hs.2
  | stream call h =>
      rw [Fits, h] at hs
      exact hs.2
  | fail h =>
      rw [Fits, h] at hs
      exact hs
  | stop => exact ⟨rfl, rfl, rfl⟩
  | reset => exact ⟨rfl, rfl, rfl⟩
  | release =>
      rw [Fits] at hs ⊢
      cases hp : s.phase with
      | idle | stopping =>
          rw [hp] at hs
          exact ⟨rfl, hs.2⟩
      | starting | streaming | failed =>
          rw [hp] at hs
          exact hs

end Controller

/-- After a step of a call that leaves a pump to the controller, this is the pump it had, or that of
the call. -/
theorem Call.Effect.running {number : Nat} {s t : Controller} {a b : Stage}
    (h : Effect number s t a b) (ht : t.phase = .streaming ∨ t.phase = .failed) :
    t.cancel = s.cancel ∧
      ((s.phase = .streaming ∨ s.phase = .failed) ∧ t.worker = s.worker ∨
        s.phase = .starting ∧ t.worker = some number ∧ a = .opening s.generation) := by
  cases h with
  | stay _ hs | refuse hs | overtaken _ _ hs | abandon _ hs | exhaust _ hs =>
      rw [hs] at ht ⊢
      exact ⟨rfl, .inl ⟨ht, rfl⟩⟩
  | enter hs =>
      obtain ⟨-, rfl⟩ := Controller.begin?_eq_some hs
      simp at ht
  | settle g hs | retire g hs =>
      obtain hs' | ⟨hs', -⟩ := s.settle_cases g
      · rw [hs.trans hs'] at ht ⊢
        exact ⟨rfl, .inl ⟨ht, rfl⟩⟩
      · simp [hs.trans hs', Controller.reset] at ht
  | establish g hs =>
      obtain ⟨rfl, hp, rfl⟩ := Controller.establish?_eq_some hs
      exact ⟨rfl, .inr ⟨hp, rfl, rfl⟩⟩
  | mark g hs =>
      obtain hs' | ⟨hs', -, hp⟩ := s.markFailed_cases g
      · rw [hs.trans hs'] at ht ⊢
        exact ⟨rfl, .inl ⟨ht, rfl⟩⟩
      · rw [hs.trans hs']
        exact ⟨rfl, .inl ⟨.inl hp, rfl⟩⟩

theorem StopMove.Effect.running {hasEnded : Nat → Bool} {s t : Controller} {p q : StopPoint}
    {cancelled : Option Nat} (h : Effect hasEnded s t p cancelled q)
    (ht : t.phase = .streaming ∨ t.phase = .failed) : t = s := by
  obtain hs | hp | ⟨hp, -⟩ := h.kinds
  · exact hs
  · simp [hp] at ht
  · simp [hp] at ht

namespace System

variable {s t : System} {m : Move} {n : Nat}

def hasAbandoned (s : System) : Bool :=
  s.calls.any Call.isAbandoned || s.stops.contains .abandoned

theorem isAbandoned_of_none (h : s.hasAbandoned = false) (n : Nat) : s.isAbandoned n = false := by
  rw [hasAbandoned, Bool.or_eq_false_iff, List.any_eq_false] at h
  rw [isAbandoned]
  cases hc : s.calls[n]? with
  | none => rfl
  | some c => simpa using h.1 c (List.mem_of_getElem? hc)

theorem ne_abandoned_of_none (h : s.hasAbandoned = false) (k : Nat) :
    s.stops[k]? ≠ some .abandoned := by
  intro hk
  have hmem : .abandoned ∈ s.stops := List.mem_of_getElem? hk
  simp [hasAbandoned, hmem] at h

theorem Reachable.fits (h : s.Reachable) : s.controller.Fits :=
  h.induction ⟨rfl, rfl, rfl⟩ fun _ _ _ hs hm => (fire_turn hm).shift.fits hs

theorem Attended.opening_of_starting (h : s.Attended) (hp : s.phase = .starting)
    (hr : s.released = false) (hn : ∀ n, s.isAbandoned n = false) :
    ∃ n, s.controller.cancel = some n ∧ s.stage n = .opening s.controller.generation := by
  cases h with
  | idle hp' => exact nomatch hp.symm.trans hp'
  | running n hp' => simp [hp] at hp'
  | stopping k hk => exact nomatch hp.symm.trans hk.phase
  | opening n _ hc hopening =>
      refine ⟨n, hc hr, hopening.resolve_right ?_⟩
      simp [hn n]

theorem Attended.running_of_phase (h : s.Attended)
    (hp : s.phase = .streaming ∨ s.phase = .failed) :
    ∃ n, (s.stage n).running? = some s.controller.generation := by
  cases h with
  | idle hp' | opening n hp' => simp [hp'] at hp
  | running n _ hn => exact ⟨n, hn⟩
  | stopping k hk => simp [hk.phase] at hp

theorem Attended.pending_of_stopping (h : s.Attended) (hp : s.phase = .stopping) :
    ∃ k, s.Pending k := by
  cases h with
  | idle hp' | opening n hp' => exact nomatch hp.symm.trans hp'
  | running n hp' => simp [hp] at hp'
  | stopping k hk => exact ⟨k, hk⟩

/-- The watch that can be cancelled is the one whose pump the controller keeps, unless the handle is
gone or a call was dropped. -/
theorem Reachable.cancel_eq_worker (h : s.Reachable) (hr : s.released = false)
    (hn : ∀ n, s.isAbandoned n = false) (hp : s.phase = .streaming ∨ s.phase = .failed) :
    s.controller.cancel = s.controller.worker := by
  let P (s : System) : Prop := s.Reachable ∧ (s.released = false →
    (∀ n, s.isAbandoned n = false) → s.phase = .streaming ∨ s.phase = .failed →
      s.controller.cancel = s.controller.worker)
  suffices hs : P s from hs.2 hr hn hp
  refine h.induction ⟨reachable_new, fun _ _ hp => by simp [phase, new, Controller.new] at hp⟩ ?_
  rintro s t m ⟨h, hs⟩ hm
  refine ⟨h.fire hm, fun hr hn hp => ?_⟩
  have hn' (k : Nat) : s.isAbandoned k = false := by
    cases hk : s.isAbandoned k with
    | false => rfl
    | true => exact absurd (isAbandoned_fire hm hk) (by simp [hn k])
  cases m with
  | openCall capacity replicating =>
      obtain rfl := openCall_cases hm
      exact hs hr hn' hp
  | openStop =>
      obtain rfl := openStop_cases hm
      exact hs hr hn' hp
  | release => exact absurd hr (by simp [(release_cases hm).2])
  | stop k m =>
      obtain ⟨p, cancelled, q, -, hf, ht⟩ := fireStop_cases hm
      have hsame := (StopMove.fire_effect hf).running hp
      rw [phase, hsame] at hp
      rw [hsame]
      exact hs (by rwa [ht] at hr) hn' hp
  | call n m =>
      obtain ⟨c, d, hc, hf, ht⟩ := fireCall_cases hm
      have hr' : s.released = false := by rwa [ht] at hr
      obtain ⟨hcancel, ⟨hp', hworker⟩ | ⟨hp', hworker, hstage⟩⟩ :=
        (CallMove.fire_effect hf).running hp
      · rw [hcancel, hworker]
        exact hs hr' hn' hp'
      · -- the call whose pump starts is the one that has claimed the controller
        obtain ⟨k, hk, hopening⟩ := h.attended.opening_of_starting hp' hr' hn'
        rw [← stage_of_getElem? hc] at hstage
        have hnk : n = k := by
          apply h.coherent.numbered.distinct n k s.controller.generation
          · rw [hstage]
            rfl
          · rw [hopening]
            rfl
        rw [hcancel, hworker, hk, hnk]

/-- The fields that go with each phase, and who has to bring the controller on from it. -/
structure Shaped (s : System) : Prop where
  idle : s.phase = .idle → s.controller.cancel = none ∧ s.controller.worker = none ∧
    s.controller.stopping = none
  starting : s.phase = .starting → ∃ n, s.controller.cancel = some n ∧
    s.controller.worker = none ∧ s.controller.stopping = none ∧
      s.stage n = .opening s.controller.generation
  running : s.phase = .streaming ∨ s.phase = .failed → ∃ n, s.controller.cancel = some n ∧
    s.controller.worker = some n ∧ s.controller.stopping = none ∧
      (s.stage n).running? = some s.controller.generation
  stopping : s.phase = .stopping → s.controller.cancel = none ∧ s.controller.worker = none ∧
    s.controller.stopping.isSome = true ∧ ∃ (k : Nat) (p : StopPoint), s.stops[k]? = some p ∧
      (p = .joining s.controller.generation s.controller.stopping ∨
        p = .leaving s.controller.generation)

theorem Coherent.waiting_of_pending {k : Nat} (h : s.Coherent) (hk : s.Pending k)
    (hn : s.stops[k]? ≠ some .abandoned) : ∃ p, s.stops[k]? = some p ∧
      (p = .joining s.controller.generation s.controller.stopping ∨
        p = .leaving s.controller.generation) := by
  obtain ⟨hphase, p, hp, hw⟩ := hk
  refine ⟨p, hp, ?_⟩
  cases p with
  | entering | returned => exact hw.elim
  | abandoned => exact absurd hp hn
  | leaving g => exact .inr (congrArg _ hw)
  | joining g j =>
      obtain rfl : g = s.controller.generation := hw
      obtain hidle | ⟨-, rfl⟩ := (h.joining k _ j hp).2 rfl
      · exact nomatch hphase.symm.trans hidle
      · exact .inl rfl

/-- The phases follow one another in their order, and the generation grows by one with each watch
that is begun and at no other time. As long as the handle is there and nobody has dropped a call,
the fields of the controller are those of its phase, and whoever has to bring it on from there is
still on the way. -/
theorem phases_in_order (h : s.Reachable) :
    (∀ m t, s.fire m = some t →
      (t.phase = s.phase ∨ t.phase ∈ s.phase.next) ∧
        t.controller.generation =
          if s.phase = .idle ∧ t.phase = .starting then s.controller.generation + 1
          else s.controller.generation) ∧
      (s.released = false → s.hasAbandoned = false → s.Shaped) := by
  refine ⟨fun m t hm => (fire_turn hm).shift.next, fun hr ha => ?_⟩
  have hn := isAbandoned_of_none ha
  have hfits := h.fits
  rw [Controller.Fits] at hfits
  refine ⟨fun hp => ?_, fun hp => ?_, fun hp => ?_, fun hp => ?_⟩
  · rwa [show s.controller.phase = .idle from hp] at hfits
  · obtain ⟨n, hcancel, hopening⟩ := h.attended.opening_of_starting hp hr hn
    rw [show s.controller.phase = .starting from hp] at hfits
    exact ⟨n, hcancel, hfits.1, hfits.2, hopening⟩
  · obtain ⟨n, hrunning⟩ := h.attended.running_of_phase hp
    have hcancel := h.cancel_eq_worker hr hn hp
    obtain ⟨-, hdrives⟩ := h.retained.keeps h.coherent hrunning
    rw [Controller.Drives] at hdrives
    obtain hp | hp := hp <;> rw [show s.controller.phase = _ from hp] at hdrives hfits <;>
      exact ⟨n, hcancel.trans hdrives, hdrives, hfits, hrunning⟩
  · obtain ⟨k, hpending⟩ := h.attended.pending_of_stopping hp
    rw [show s.controller.phase = .stopping from hp] at hfits
    exact ⟨hfits.1, hfits.2.1, hfits.2.2, k,
      h.coherent.waiting_of_pending hpending (ne_abandoned_of_none ha k)⟩

/-- The second watch of a handle has failed, and a stop takes it over. -/
theorem phases_in_order_failed : ∃ s t : System, s.Reachable ∧ s.phase = .failed ∧
    s.controller.generation = 2 ∧ s.Shaped ∧ s.fire (.stop 1 .enter) = some t ∧
      t.phase ∈ s.phase.next ∧ t.phase = .stopping ∧ t.Shaped := by
  let body : List UInt8 := Text.Utf8.encode "event: cancel\n\n".toList
  let watch (n : Nat) : List Move := [.openCall none true, .call n .enter, .call n .issue,
    .call n (.answer (.ok ⟨200, [body], .held, .utf8⟩)), .call n .establish]
  let moves : List Move := watch 0 ++ [.openStop, .stop 0 .enter, .call 0 .poll, .call 0 .retire,
    .call 0 .close, .stop 0 .join, .stop 0 .leave] ++ watch 1 ++ [.call 1 .poll, .call 1 .mark,
      .openStop]
  let s : System := (new.run moves).get (by decide +kernel)
  let t : System := (s.fire (.stop 1 .enter)).get (by decide +kernel)
  have h : s.Reachable := ⟨moves, (Option.some_get _).symm⟩
  have ht : s.fire (.stop 1 .enter) = some t := (Option.some_get _).symm
  have hphase : s.phase = .failed := by decide +kernel
  have hgeneration : s.controller.generation = 2 := by decide +kernel
  have hstopping : t.phase = .stopping := by decide +kernel
  have hlive : s.released = false ∧ s.hasAbandoned = false := by decide +kernel
  have hlive' : t.released = false ∧ t.hasAbandoned = false := by decide +kernel
  have hshaped : s.Shaped := (phases_in_order h).2 hlive.1 hlive.2
  have hshaped' : t.Shaped := (phases_in_order (h.fire ht)).2 hlive'.1 hlive'.2
  have hlater : t.phase ∈ s.phase.next := by
    obtain ⟨hsame | hlater, -⟩ := (phases_in_order h).1 _ t ht
    · rw [hphase, hstopping] at hsame
      exact nomatch hsame
    · exact hlater
  exact ⟨s, t, h, hphase, hgeneration, hshaped, ht, hlater, hstopping, hshaped'⟩

end System

end LiveTree.Watch
