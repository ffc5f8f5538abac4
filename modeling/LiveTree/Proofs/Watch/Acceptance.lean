import LiveTree.Proofs.Watch.Attendance

namespace LiveTree.Watch

theorem Call.isPending_of_opening {c : Call} {g : Nat} (h : c.stage = .opening g) :
    c.isPending = true := by
  obtain ⟨replicating, channel, point⟩ := c
  cases point with
  | awaiting | withdrawing | connected => rfl
  | entering | refused | abandoned => simp [stage] at h
  | pumping p => cases pump?_of_opening h

namespace System

variable {s t : System} {n : Nat}

def attempt (s : System) (capacity : Option Nat) (replicating : Bool) : Option System :=
  s.run [.openCall capacity replicating, .call s.calls.length .enter]

/-- A call to watch made now claims the controller. -/
def Accepts (s : System) : Prop :=
  ∀ capacity replicating, ∃ t, s.attempt capacity replicating = some t ∧ t.phase = .starting ∧
    t.stage s.calls.length = .opening t.controller.generation

/-- A call to watch made now is told that there is a watch already. -/
def Refuses (s : System) : Prop :=
  ∀ capacity replicating, ∃ t c, s.attempt capacity replicating = some t ∧
    t.calls[s.calls.length]? = some c ∧ c.result? = some (.error .alreadyWatching)

theorem attempt_of_begin? {u : Controller} (hr : s.released = false)
    (hb : s.controller.begin? s.calls.length = some u) (capacity : Option Nat)
    (replicating : Bool) :
    s.attempt capacity replicating =
      some { s with
        controller := u
        calls := s.calls ++
          [{ Call.new capacity replicating with point := .awaiting u.generation false }] } := by
  simp [attempt, run, fire, openCall?, hr, fireCall?, CallMove.fire, CallMove.enter?, Call.new, hb]

theorem attempt_of_not_begin? (hr : s.released = false)
    (hb : s.controller.begin? s.calls.length = none) (capacity : Option Nat)
    (replicating : Bool) :
    s.attempt capacity replicating =
      some { s with
        calls := s.calls ++ [(Call.new capacity replicating).refuse .alreadyWatching] } := by
  simp [attempt, run, fire, openCall?, hr, fireCall?, CallMove.fire, CallMove.enter?, Call.new, hb]

theorem accepts_of_idle (hr : s.released = false) (hp : s.phase = .idle) : s.Accepts := by
  intro capacity replicating
  refine ⟨_, attempt_of_begin? hr (if_pos hp) capacity replicating, rfl, ?_⟩
  rw [stage_of_getElem? (List.getElem?_concat_length ..)]
  rfl

theorem refuses_of_phase_ne (hr : s.released = false) (hp : s.phase ≠ .idle) : s.Refuses := by
  intro capacity replicating
  exact ⟨_, (Call.new capacity replicating).refuse .alreadyWatching,
    attempt_of_not_begin? hr (if_neg hp) capacity replicating, List.getElem?_concat_length .., rfl⟩

theorem Refuses.not_accepts (h : s.Refuses) : ¬ s.Accepts := by
  intro ha
  obtain ⟨t, c, ht, hc, hresult⟩ := h none false
  obtain ⟨u, hu, -, hstage⟩ := ha none false
  obtain rfl := Option.some.inj (ht.symm.trans hu)
  rw [stage_of_getElem? hc] at hstage
  obtain ⟨replicating, channel, point⟩ := c
  cases point <;> simp [Call.result?, Call.stage] at hresult hstage

theorem accepts_iff (hr : s.released = false) : s.Accepts ↔ s.phase = .idle := by
  refine ⟨fun ha => ?_, accepts_of_idle hr⟩
  by_cases hp : s.phase = .idle
  · exact hp
  · exact absurd ha (refuses_of_phase_ne hr hp).not_accepts

theorem Accepts.released (h : s.Accepts) : s.released = false := by
  obtain ⟨t, ht, -⟩ := h none false
  cases hr : s.released with
  | false => rfl
  | true => simp [attempt, run, fire, openCall?, hr] at ht

/-- The controller is held by a call to watch, or for a call to stop, that has been abandoned. -/
inductive Deserted (s : System) : Prop
  | opening (n : Nat) (hp : s.phase = .starting)
      (hc : s.released = false → s.controller.cancel = some n) (hn : s.isAbandoned n = true)
  | stopping (k : Nat) (hp : s.phase = .stopping) (hk : s.stops[k]? = some .abandoned)

theorem Deserted.phase_ne (h : s.Deserted) : s.phase ≠ .idle := by
  cases h with
  | opening n hp => simp [hp]
  | stopping k hp => simp [hp]

theorem stage_ne_opening (hb : s.isBusy = false) (g : Nat) : s.stage n ≠ .opening g := by
  intro hn
  have hmade : s.stage n ≠ .outside := by simp [hn]
  obtain ⟨c, hc, hstage⟩ := exists_call hmade
  have hpending : c.isPending = true := Call.isPending_of_opening (hstage.symm.trans hn)
  have hbusy : s.isBusy = true := by
    rw [isBusy, Bool.or_eq_true]
    exact .inl (List.any_eq_true.2 ⟨c, List.mem_of_getElem? hc, hpending⟩)
  simp [hb] at hbusy

theorem Pending.abandoned {k : Nat} (h : s.Pending k) (hb : s.isBusy = false) :
    s.stops[k]? = some .abandoned := by
  obtain ⟨-, p, hk, hw⟩ := h
  have hpending : p.isPending = false := by
    simp only [isBusy, Bool.or_eq_false_iff, List.any_eq_false] at hb
    simpa using hb.2 p (List.mem_of_getElem? hk)
  cases p with
  | abandoned => exact hk
  | joining | leaving => simp [StopPoint.isPending] at hpending
  | entering | returned => exact hw.elim

/-- When nobody waits at the handle the controller is idle, or keeps a pump that runs, or has been
deserted. -/
theorem Attended.unless_busy (h : s.Attended) (hb : s.isBusy = false) :
    s.phase = .idle ∨
      (∃ n, (s.phase = .streaming ∨ s.phase = .failed) ∧
        (s.stage n).running? = some s.controller.generation) ∨ s.Deserted := by
  cases h with
  | idle hp => exact .inl hp
  | opening n hp hc hn =>
      obtain hn | hn := hn
      · exact absurd hn (stage_ne_opening hb _)
      · exact .inr (.inr (.opening n hp hc hn))
  | running n hp hn => exact .inr (.inl ⟨n, hp, hn⟩)
  | stopping k hk => exact .inr (.inr (.stopping k hk.phase (hk.abandoned hb)))

end System

end LiveTree.Watch
