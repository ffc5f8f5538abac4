import LiveTree.Proofs.Watch.Barrier
import LiveTree.Proofs.Watch.Retirement
import LiveTree.Proofs.Watch.Serving

namespace LiveTree.Watch

/-- A step of a call leaves the controller as it is, or brings it to idle, or makes it that of the
call. -/
theorem Call.Effect.kinds {number : Nat} {s t : Controller} {a b : Stage}
    (h : Effect number s t a b) :
    t = s ∨ t.phase = .idle ∨
      (t.phase = .starting ∧ t.cancel = some number ∧ b = .opening t.generation) ∨
        (t.phase = .streaming ∨ t.phase = .failed) ∧ b = .active t.generation := by
  cases h with
  | stay _ hs | refuse hs | overtaken _ _ hs | abandon _ hs | exhaust _ hs => exact .inl hs
  | enter hs =>
      obtain ⟨-, rfl⟩ := Controller.begin?_eq_some hs
      exact .inr (.inr (.inl ⟨rfl, rfl, rfl⟩))
  | settle g hs | retire g hs =>
      obtain hs' | ⟨hs', -⟩ := s.settle_cases g
      · exact .inl (hs.trans hs')
      · exact .inr (.inl (congrArg Controller.phase (hs.trans hs')))
  | establish g hs =>
      obtain ⟨rfl, -, rfl⟩ := Controller.establish?_eq_some hs
      exact .inr (.inr (.inr ⟨.inl rfl, rfl⟩))
  | mark g hs =>
      obtain hs' | ⟨hs', rfl, -⟩ := s.markFailed_cases g
      · exact .inl (hs.trans hs')
      · obtain rfl := hs.trans hs'
        exact .inr (.inr (.inr ⟨.inr rfl, rfl⟩))

theorem StopMove.Effect.kinds {hasEnded : Nat → Bool} {s t : Controller} {p q : StopPoint}
    {cancelled : Option Nat} (h : Effect hasEnded s t p cancelled q) :
    t = s ∨ t.phase = .idle ∨ t.phase = .stopping ∧ q = .joining t.generation t.stopping := by
  cases h with
  | already _ hs | share _ hs | join _ _ _ hs | abandon _ _ hs => exact .inl hs
  | take _ _ hs =>
      refine .inr (.inr ⟨?_, rfl⟩)
      rw [hs]
  | leave g hs =>
      obtain hs' | ⟨hs', -⟩ := s.finishStop_cases g
      · exact .inl (hs.trans hs')
      · exact .inr (.inl (congrArg Controller.phase (hs.trans hs')))

def Call.isAbandoned (c : Call) : Bool :=
  match c.point with
  | .abandoned => true
  | _ => false

theorem Call.isAbandoned_iff {c : Call} : c.isAbandoned = true ↔ c.point = .abandoned := by
  obtain ⟨replicating, channel, point⟩ := c
  cases point <;> simp [isAbandoned]

theorem Call.pump?_of_opening {c : Call} {g : Nat} (h : c.stage = .opening g) :
    c.pump? = none := by
  obtain ⟨replicating, channel, point⟩ := c
  cases point with
  | pumping p =>
      obtain ⟨e, source, replica, point⟩ := p
      cases point <;> simp [stage, Pump.stage] at h
  | entering | awaiting | withdrawing | connected | refused | abandoned => rfl

/-- The call that holds the controller leaves it in the phase of starting only when it is
abandoned. -/
theorem Call.Opening.opening_or_abandoned {number : Nat} {s t : Controller} {c d : Call}
    (h : c.Opening number s t d) (hstage : c.stage = .opening s.generation)
    (hs : s.phase = .starting) (ht : t.phase = .starting) :
    d.stage = .opening s.generation ∨ d.isAbandoned = true := by
  cases h with
  | reject _ hc | enter _ hc => simp [stage, hc] at hstage
  | issue _ hc | answer _ _ hc | withdraw _ _ _ hc =>
      rw [stage, hc] at hstage
      exact .inl hstage
  | settle g f hc =>
      rw [stage, hc] at hstage
      obtain rfl := Stage.opening.inj hstage
      rw [Controller.settle, if_pos rfl, hs] at ht
      cases ht
  | establish g a _ hc hb =>
      obtain ⟨-, -, rfl⟩ := Controller.establish?_eq_some hb
      cases ht
  | overtaken g a hc hb =>
      rw [stage, hc] at hstage
      obtain rfl := Stage.opening.inj hstage
      rw [Controller.establish?, if_pos ⟨rfl, hs⟩] at hb
      cases hb
  | abandon => exact .inr rfl
  | receive | dropReceiver => exact .inl hstage

namespace System

variable {s t : System} {m : Move} {n : Nat}

def isAbandoned (s : System) (n : Nat) : Bool :=
  (s.calls[n]?).any Call.isAbandoned

/-- Who keeps the controller in its phase. While a watch is being opened that is its call, which
will not go on if it has been abandoned. -/
inductive Attended (s : System) : Prop
  | idle (hp : s.phase = .idle)
  | opening (n : Nat) (hp : s.phase = .starting)
      (hc : s.released = false → s.controller.cancel = some n)
      (hn : s.stage n = .opening s.controller.generation ∨ s.isAbandoned n = true)
  | running (n : Nat) (hp : s.phase = .streaming ∨ s.phase = .failed)
      (hn : (s.stage n).running? = some s.controller.generation)
  | stopping (k : Nat) (hk : s.Pending k)

/-- A step that leaves the controller alone, unless the handle goes away. -/
structure Still (s t : System) : Prop where
  phase : t.phase = s.phase
  generation : t.controller.generation = s.controller.generation
  cancel : t.released = false → s.released = false ∧ t.controller.cancel = s.controller.cancel

theorem still_of_eq (hc : t.controller = s.controller) (hr : t.released = s.released) :
    s.Still t :=
  ⟨congrArg Controller.phase hc, congrArg Controller.generation hc,
    fun h => ⟨hr ▸ h, congrArg Controller.cancel hc⟩⟩

theorem attended_or_still (h : s.fire m = some t) : t.Attended ∨ s.Still t := by
  cases m with
  | openCall capacity replicating =>
      obtain rfl := openCall_cases h
      exact .inr (still_of_eq rfl rfl)
  | openStop =>
      obtain rfl := openStop_cases h
      exact .inr (still_of_eq rfl rfl)
  | release =>
      obtain ⟨-, rfl⟩ := release_cases h
      exact .inr ⟨rfl, rfl, fun hr => nomatch hr⟩
  | call n m =>
      obtain ⟨c, d, hc, hf, ht⟩ := fireCall_cases h
      have hn : t.stage n = d.stage := stage_self hc (by rw [ht])
      obtain hs | hidle | ⟨hp, hcancel, hd⟩ | ⟨hp, hd⟩ := (CallMove.fire_effect hf).kinds
      · exact .inr (still_of_eq hs (by rw [ht]))
      · exact .inl (.idle hidle)
      · exact .inl (.opening n hp (fun _ => hcancel) (.inl (hn.trans hd)))
      · refine .inl (.running n hp ?_)
        rw [hn, hd]
        rfl
  | stop k m =>
      obtain ⟨p, cancelled, q, hp, hf, ht⟩ := fireStop_cases h
      have hq : t.stops[k]? = some q := by
        rw [ht]
        exact List.getElem?_set_self (List.getElem?_eq_some_iff.1 hp).1
      obtain hs | hidle | ⟨hphase, rfl⟩ := (StopMove.fire_effect hf).kinds
      · exact .inr (still_of_eq hs (by rw [ht]))
      · exact .inl (.idle hidle)
      · exact .inl (.stopping k ⟨hphase, _, hq, rfl⟩)

theorem exists_call (h : s.stage n ≠ .outside) : ∃ c, s.calls[n]? = some c ∧ s.stage n = c.stage := by
  cases hc : s.calls[n]? with
  | none => exact absurd (by rw [stage, hc]; rfl) h
  | some c => exact ⟨c, rfl, stage_of_getElem? hc⟩

theorem isAbandoned_of_getElem? {c : Call} (hc : s.calls[n]? = some c) :
    s.isAbandoned n = c.isAbandoned := by
  rw [isAbandoned, hc]
  rfl

theorem isAbandoned_fire (h : s.fire m = some t) (hn : s.isAbandoned n = true) :
    t.isAbandoned n = true := by
  obtain ⟨c, hc, hab⟩ := (Option.any_eq_true ..).1 hn
  obtain hd | ⟨k, d, hf, hd⟩ := call_fire h hc
  · rwa [isAbandoned_of_getElem? hd]
  · have hpoint := Call.isAbandoned_iff.1 hab
    have hpump : c.pump? = none := by rw [Call.pump?, hpoint]
    rw [isAbandoned_of_getElem? hd]
    have hopening := (CallMove.fire_outside hf hpump).1
    generalize t.controller = v at hopening
    cases hopening with
    | receive | dropReceiver => exact hab
    | reject _ hp | enter _ hp | issue _ hp | answer _ _ hp | withdraw _ _ _ hp | settle _ _ hp
    | establish _ _ _ hp | overtaken _ _ hp | abandon _ _ hp => simp [hpoint] at hp

theorem opening_fire (h : s.fire m = some t) (hp : s.phase = .starting)
    (hp' : t.phase = .starting) (hn : s.stage n = .opening s.controller.generation) :
    t.stage n = .opening s.controller.generation ∨ t.isAbandoned n = true := by
  have hmade : s.stage n ≠ .outside := by simp [hn]
  obtain ⟨c, hc, hstage⟩ := exists_call hmade
  rw [hn] at hstage
  obtain hd | ⟨k, d, hf, hd⟩ := call_fire h hc
  · rw [stage_of_getElem? hd]
    exact .inl hstage.symm
  · rw [stage_of_getElem? hd, isAbandoned_of_getElem? hd]
    have hopening := (CallMove.fire_outside hf (Call.pump?_of_opening hstage.symm)).1
    exact hopening.opening_or_abandoned hstage.symm hp hp'

theorem running_turn (ht : s.Turn t) (hp : t.phase = .streaming ∨ t.phase = .failed)
    (hs : s.Still t) (hn : (s.stage n).running? = some s.controller.generation) :
    (t.stage n).running? = some s.controller.generation := by
  obtain hstage | he := ht.stage_cases n
  · rwa [hstage]
  · generalize s.stage n = a at he hn
    generalize t.stage n = b at he
    cases he with
    | stay | mark | exhaust => exact hn
    | refuse | enter | settle | overtaken | establish | abandon => simp [Stage.running?] at hn
    | retire g hc =>
        obtain rfl := Option.some.inj hn
        rw [hs.phase, phase] at hp
        have hidle : (s.controller.settle s.controller.generation).phase = .idle := by
          rw [Controller.settle, if_pos rfl]
          obtain hp | hp := hp <;> rw [hp] <;> rfl
        have hphase := hs.phase
        rw [phase, hc, hidle, phase] at hphase
        simp [← hphase] at hp

theorem Attended.fire (h : s.Attended) (hm : s.fire m = some t) : t.Attended := by
  obtain ht | hs := attended_or_still hm
  · exact ht
  -- the controller has not moved, so whoever attended to it has to be there still
  cases h with
  | idle hp => exact .idle (hs.phase.trans hp)
  | opening n hp hc hn =>
      refine .opening n (hs.phase.trans hp) (fun hr => ?_) ?_
      · obtain ⟨hr, hcancel⟩ := hs.cancel hr
        exact hcancel.trans (hc hr)
      · rw [hs.generation]
        obtain hn | hn := hn
        · exact opening_fire hm hp (hs.phase.trans hp) hn
        · exact .inr (isAbandoned_fire hm hn)
  | running n hp hn =>
      refine .running n (hs.phase ▸ hp) ?_
      rw [hs.generation]
      exact running_turn (fire_turn hm) (hs.phase ▸ hp) hs hn
  | stopping k hk =>
      obtain hidle | hpending := (fire_turn hm).pending hk
      · exact .idle hidle
      · exact .stopping k hpending

theorem Reachable.attended (h : s.Reachable) : s.Attended :=
  h.induction (.idle rfl) fun _ _ _ hs hm => hs.fire hm

end System

end LiveTree.Watch
