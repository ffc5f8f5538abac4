import LiveTree.Proofs.Watch.Acceptance

namespace LiveTree.Watch

def Controller.Names (s : Controller) (n : Nat) : Prop :=
  s.worker = some n ∨ s.stopping = some (some n)

theorem Controller.not_names_reset (s : Controller) (n : Nat) : ¬ s.reset.Names n := by
  simp [Names, reset]

theorem Call.Effect.names {number : Nat} {s t : Controller} {a b : Stage} {n : Nat}
    (h : Effect number s t a b) (hn : t.Names n) :
    s.Names n ∨ n = number ∧ b.pump?.isSome = true := by
  cases h with
  | stay _ hs | refuse hs | overtaken _ _ hs | abandon _ hs | exhaust _ hs => exact .inl (hs ▸ hn)
  | enter hs =>
      obtain ⟨-, rfl⟩ := Controller.begin?_eq_some hs
      exact .inl hn
  | settle g hs | retire g hs =>
      obtain hs' | ⟨hs', -⟩ := s.settle_cases g
      · exact .inl (hs.trans hs' ▸ hn)
      · exact absurd (hs.trans hs' ▸ hn) (s.not_names_reset n)
  | establish g hs =>
      obtain ⟨-, -, rfl⟩ := Controller.establish?_eq_some hs
      obtain hn | hn := hn
      · exact .inr ⟨(Option.some.inj hn).symm, rfl⟩
      · exact .inl (.inr hn)
  | mark g hs =>
      obtain hs' | ⟨hs', -⟩ := s.markFailed_cases g
      · exact .inl (hs.trans hs' ▸ hn)
      · rw [hs.trans hs'] at hn
        exact .inl hn

theorem StopMove.Effect.names {hasEnded : Nat → Bool} {s t : Controller} {p q : StopPoint}
    {cancelled : Option Nat} {n : Nat} (h : Effect hasEnded s t p cancelled q) (hn : t.Names n) :
    s.Names n := by
  cases h with
  | already _ hs | share _ hs | join _ _ _ hs | abandon _ _ hs => exact hs ▸ hn
  | take _ _ hs =>
      rw [hs] at hn
      obtain hn | hn := hn
      · exact nomatch hn
      · exact .inl (Option.some.inj hn)
  | leave g hs =>
      obtain hs' | ⟨hs', -⟩ := s.finishStop_cases g
      · exact hs.trans hs' ▸ hn
      · exact absurd (hs.trans hs' ▸ hn) (s.not_names_reset n)

theorem StopMove.fire_enter (hasEnded : Nat → Bool) {s : Controller} (hp : s.phase ≠ .idle) :
    ∃ c cancelled j, fire hasEnded s .entering .enter =
        some (c, cancelled, .joining s.generation j) ∧
      c.phase = .stopping ∧ c.generation = s.generation ∧
        ∀ n, awaited? j = some n → s.Names n := by
  obtain ⟨hidle, -⟩ | ⟨hstopping, hb⟩ | ⟨-, -, hb⟩ := s.beginStop_cases
  · exact absurd hidle hp
  · refine ⟨s, none, s.stopping, by simp [fire, hb], hstopping, rfl, ?_⟩
    intro n hn
    obtain ⟨join, hj, rfl⟩ := Option.bind_eq_some_iff.1 hn
    exact .inr hj
  · let c : Controller :=
      { s with phase := .stopping, cancel := none, worker := none, stopping := some s.worker }
    refine ⟨c, s.cancel, some s.worker, by simp [fire, hb, c], rfl, rfl, ?_⟩
    intro n hn
    exact .inl hn

namespace System

variable {s t u : System} {n k : Nat} {moves : List Move}

theorem Reachable.pump?_of_names (h : s.Reachable) (hn : s.controller.Names n) :
    ((s.stage n).pump?).isSome = true := by
  let P (s : System) : Prop := ∀ n, s.controller.Names n → ((s.stage n).pump?).isSome = true
  suffices hs : P s from hs n hn
  refine h.induction (by simp [P, new, Controller.new, Controller.Names]) ?_
  intro s t m hs hm n hn
  have ht := fire_turn hm
  have hkeep (hn : s.controller.Names n) : ((t.stage n).pump?).isSome = true := by
    obtain ⟨g, hg⟩ := Option.isSome_iff_exists.1 (hs n hn)
    rw [ht.pump? hg]
    rfl
  cases ht with
  | arrive hc => exact hkeep (hc ▸ hn)
  | release hc =>
      rw [hc] at hn
      exact hkeep hn
  | stop k p q cancelled hp he => exact hkeep (he.names hn)
  | call k he =>
      obtain hn | ⟨rfl, hpump⟩ := he.names hn
      · exact hkeep hn
      · exact hpump

def AllEnded (s : System) : Prop :=
  ∀ n p, s.pump? n = some p → p.isEnded = true

theorem allEnded_of_all (h : s.calls.all (fun c => c.pump?.all Pump.isEnded) = true) :
    s.AllEnded := by
  intro n p hp
  obtain ⟨c, hc, hpump⟩ := Option.bind_eq_some_iff.1 hp
  have hall := List.all_eq_true.1 h c (List.mem_of_getElem? hc)
  rwa [hpump] at hall

theorem exists_pump {g : Nat} (h : (s.stage n).pump? = some g) :
    ∃ p, s.pump? n = some p ∧ s.stage n = p.stage := by
  have hmade : s.stage n ≠ .outside := by
    intro hn
    rw [hn] at h
    exact nomatch h
  obtain ⟨c, hc, hstage⟩ := exists_call hmade
  rw [hstage] at h ⊢
  rw [pump?, hc]
  obtain ⟨replicating, channel, point⟩ := c
  cases point with
  | pumping p => exact ⟨p, rfl, rfl⟩
  | entering | awaiting | withdrawing | connected | refused | abandoned => exact nomatch h

theorem AllEnded.noneRunning (h : s.AllEnded) : s.NoneRunning := by
  intro n
  cases hn : (s.stage n).running? with
  | none => rfl
  | some g =>
      have hpump : (s.stage n).pump? = some g := by
        obtain hs | hs := Stage.running?_eq_some.1 hn <;> rw [hs] <;> rfl
      obtain ⟨p, hp, hstage⟩ := exists_pump hpump
      have hended := h n p hp
      obtain ⟨generation, source, replica, point⟩ := p
      cases point with
      | ended =>
          rw [hstage] at hn
          exact nomatch hn
      | polling | sending | marking | retiring | closing => exact nomatch hended

theorem AllEnded.hasEnded_of_names (h : s.AllEnded) (hs : s.Reachable)
    (hn : s.controller.Names n) : s.hasEnded n = true := by
  obtain ⟨g, hg⟩ := Option.isSome_iff_exists.1 (hs.pump?_of_names hn)
  obtain ⟨p, hp, -⟩ := exists_pump hg
  obtain ⟨c, hc, hpump⟩ := Option.bind_eq_some_iff.1 hp
  rw [hasEnded, hc, Option.any_some, Call.hasEndedPump, Call.pump?_eq_some.1 hpump]
  exact h n p hp

theorem exists_fire_stop {m : StopMove} {c : Controller} {cancelled : Option Nat}
    {p q : StopPoint} (hp : s.stops[k]? = some p)
    (hf : m.fire s.hasEnded s.controller p = some (c, cancelled, q)) :
    ∃ t, s.fire (.stop k m) = some t ∧ t.controller = c ∧ t.stops[k]? = some q ∧
      t.hasEnded = s.hasEnded ∧ t.released = s.released := by
  let t : System :=
    { s with controller := c, stops := s.stops.set k q,
             cancelled := cancelled.toList ++ s.cancelled }
  refine ⟨t, by simp [fire, fireStop?, hp, hf, t], rfl, ?_, rfl, rfl⟩
  exact List.getElem?_set_self (List.getElem?_eq_some_iff.1 hp).1

def loneStop (s : System) : List Move :=
  [.openStop, .stop s.stops.length .enter, .stop s.stops.length .join,
    .stop s.stops.length .leave]

/-- One stop alone brings the controller back to idle if no pump runs that it has to wait for. -/
theorem AllEnded.accepts_after_stop (h : s.AllEnded) (hs : s.Reachable) (hr : s.released = false)
    (hp : s.phase ≠ .idle) : ∃ t, s.run s.loneStop = some t ∧ t.Accepts := by
  let u : System := { s with stops := s.stops ++ [.entering] }
  have hopen : s.fire .openStop = some u := by simp [fire, openStop?, hr, u]
  have hentering : u.stops[s.stops.length]? = some .entering := List.getElem?_concat_length ..
  obtain ⟨c, cancelled, j, henter, hphase, hg, hj⟩ :=
    StopMove.fire_enter u.hasEnded (show u.controller.phase ≠ .idle from hp)
  obtain ⟨v, hv, rfl, hjoining, hve, hvr⟩ := exists_fire_stop hentering henter
  have hended : (StopMove.awaited? j).all v.hasEnded = true := by
    rw [hve]
    cases hn : StopMove.awaited? j with
    | none => rfl
    | some n => exact h.hasEnded_of_names hs (hj n hn)
  have hjoin : StopMove.join.fire v.hasEnded v.controller (.joining u.controller.generation j) =
      some (v.controller, none, .leaving u.controller.generation) := if_pos hended
  obtain ⟨w, hw, hwc, hleaving, -, hwr⟩ := exists_fire_stop hjoining hjoin
  have hleave : StopMove.leave.fire w.hasEnded w.controller (.leaving u.controller.generation) =
      some (w.controller.finishStop u.controller.generation, none, .returned) := rfl
  obtain ⟨t, ht, htc, -, -, htr⟩ := exists_fire_stop hleaving hleave
  refine ⟨t, ?_, accepts_of_idle (htr.trans (hwr.trans (hvr.trans hr))) ?_⟩
  · simp [run, loneStop, hopen, hv, hw, ht]
  · rw [phase, htc, hwc, Controller.finishStop, if_pos ⟨hg, hphase⟩]
    rfl

/-- When nobody waits at the handle and no pump runs, the controller is idle exactly if it has not
been deserted. If it has, another watch is refused, but one stop is enough to have it accepted. -/
theorem idle_iff_not_deserted (h : s.Reachable) (hb : s.isBusy = false) (he : s.AllEnded) :
    (s.phase = .idle ↔ ¬ s.Deserted) ∧
      (s.released = false → (s.Accepts ↔ ¬ s.Deserted) ∧
        (s.Deserted → s.Refuses ∧ ∃ t, s.run s.loneStop = some t ∧ t.Accepts)) := by
  have hidle : s.phase = .idle ↔ ¬ s.Deserted := by
    refine ⟨fun hp hd => hd.phase_ne hp, fun hd => ?_⟩
    obtain hp | ⟨n, -, hn⟩ | hdeserted := h.attended.unless_busy hb
    · exact hp
    · rw [he.noneRunning n] at hn
      exact nomatch hn
    · exact absurd hdeserted hd
  refine ⟨hidle, fun hr => ⟨(accepts_iff hr).trans hidle, fun hd => ?_⟩⟩
  exact ⟨refuses_of_phase_ne hr hd.phase_ne, he.accepts_after_stop h hr hd.phase_ne⟩

/-- A call to stop has been abandoned while it waited for the pump, which has ended meanwhile. -/
theorem idle_iff_not_deserted_stopping : ∃ s t : System, s.Reachable ∧ s.isBusy = false ∧
    s.AllEnded ∧ s.phase = .stopping ∧ s.Refuses ∧ s.run s.loneStop = some t ∧ t.Accepts := by
  let moves : List Move := [.openCall none false, .call 0 .enter, .call 0 .issue,
    .call 0 (.answer (.ok ⟨200, [], .held, .utf8⟩)), .call 0 .establish, .openStop, .stop 0 .enter,
    .stop 0 .abandon, .call 0 .poll, .call 0 .retire, .call 0 .close]
  let s : System := (new.run moves).get (by decide +kernel)
  have h : s.Reachable := ⟨moves, (Option.some_get _).symm⟩
  have hbusy : s.isBusy = false := by decide +kernel
  have hended : s.AllEnded := allEnded_of_all (by decide +kernel)
  have hphase : s.phase = .stopping := by decide +kernel
  have hdeserted : s.Deserted := .stopping 0 hphase (by decide +kernel)
  obtain ⟨-, hreleased⟩ := idle_iff_not_deserted h hbusy hended
  obtain ⟨hrefuses, t, ht, haccepts⟩ := (hreleased (by decide +kernel)).2 hdeserted
  exact ⟨s, t, h, hbusy, hended, hphase, hrefuses, ht, haccepts⟩

/-- A caller who drops the only call ever made, while it waits for the answer, leaves the
controller in the phase of starting. -/
theorem not_idle_after_abandon : ¬ ∀ s : System, s.Reachable → s.released = false →
    s.isBusy = false → s.AllEnded → s.phase = .idle := by
  intro hclaim
  let moves : List Move := [.openCall none false, .call 0 .enter, .call 0 .issue, .call 0 .abandon]
  let s : System := (new.run moves).get (by decide +kernel)
  have hphase := hclaim s ⟨moves, (Option.some_get _).symm⟩ (by decide +kernel) (by decide +kernel)
    (allEnded_of_all (by decide +kernel))
  revert hphase
  decide +kernel

/-- A watch is being opened, but no call is left that could go on with it. -/
structure Orphaned (s : System) : Prop where
  phase : s.phase = .starting
  unheld : ∀ n, (s.stage n).generation? ≠ some s.controller.generation

theorem Orphaned.call {number : Nat} {b : Stage} (h : s.Orphaned)
    (he : Call.Effect number s.controller t.controller (s.stage number) b) :
    t.controller = s.controller := by
  have hphase : s.controller.phase = .starting := h.phase
  have hunheld := h.unheld number
  generalize s.stage number = a at he hunheld
  cases he with
  | stay _ hs | refuse hs | overtaken _ _ hs | abandon _ hs | exhaust _ hs => exact hs
  | enter hs => exact nomatch hphase.symm.trans (Controller.begin?_eq_some hs).1
  | settle g hs | retire g hs =>
      obtain hs' | ⟨-, hg, -⟩ := s.controller.settle_cases g
      · exact hs.trans hs'
      · exact absurd (congrArg some hg.symm) hunheld
  | establish g hs =>
      exact absurd (congrArg some (Controller.establish?_eq_some hs).1.symm) hunheld
  | mark g hs =>
      obtain hs' | ⟨-, -, hp⟩ := s.controller.markFailed_cases g
      · exact hs.trans hs'
      · exact nomatch hphase.symm.trans hp

theorem Orphaned.stop {hasEnded : Nat → Bool} {p q : StopPoint} {cancelled : Option Nat}
    (h : s.Orphaned) (he : StopMove.Effect hasEnded s.controller t.controller p cancelled q)
    (hp : p ≠ .entering) : t.controller = s.controller := by
  have hphase : s.controller.phase = .starting := h.phase
  cases he with
  | already | share | take => exact absurd rfl hp
  | join _ _ _ hs | abandon _ _ hs => exact hs
  | leave g hs =>
      obtain hs' | ⟨-, -, hstopping⟩ := s.controller.finishStop_cases g
      · exact hs.trans hs'
      · exact nomatch hphase.symm.trans hstopping

theorem Orphaned.fire {m : Move} (h : s.Orphaned) (hm : s.fire m = some t)
    (hstop : ∀ k, m ≠ .stop k .enter) : t.Orphaned := by
  have hsame : t.phase = s.phase ∧ t.controller.generation = s.controller.generation := by
    cases m with
    | openCall => rw [openCall_cases hm]; exact ⟨rfl, rfl⟩
    | openStop => rw [openStop_cases hm]; exact ⟨rfl, rfl⟩
    | release => rw [(release_cases hm).2]; exact ⟨rfl, rfl⟩
    | call n m =>
        obtain ⟨c, d, hc, hf, ht⟩ := fireCall_cases hm
        have he := CallMove.fire_effect hf
        rw [← stage_of_getElem? hc] at he
        have hsame := h.call he
        exact ⟨congrArg Controller.phase hsame, congrArg Controller.generation hsame⟩
    | stop k m =>
        obtain ⟨p, cancelled, q, hp, hf, ht⟩ := fireStop_cases hm
        have hne : p ≠ .entering := by
          rintro rfl
          cases m with
          | enter => exact hstop k rfl
          | join | leave | abandon => exact nomatch hf
        have hsame := h.stop (StopMove.fire_effect hf) hne
        exact ⟨congrArg Controller.phase hsame, congrArg Controller.generation hsame⟩
  -- a call that got the generation just now would have moved the controller
  refine ⟨hsame.1.trans h.phase, fun n hn => ?_⟩
  rw [hsame.2] at hn
  obtain hn | ⟨-, hg, -⟩ := (fire_turn hm).generation? hn
  · exact h.unheld n hn
  · rw [hsame.2] at hg
    exact absurd hg (Nat.ne_of_lt (Nat.lt_succ_self _))

theorem Orphaned.run (h : s.Orphaned) (hr : s.run moves = some t)
    (hstops : ∀ k, .stop k .enter ∉ moves) : t.Orphaned := by
  induction moves generalizing s with
  | nil => exact Option.some.inj hr ▸ h
  | cons m moves ih =>
      obtain ⟨u, hu, hr⟩ := run_cons.1 hr
      have hfirst : ∀ k, m ≠ .stop k .enter := fun k hm => hstops k (hm ▸ List.mem_cons_self ..)
      exact ih (h.fire hu hfirst) hr fun k hk => hstops k (List.mem_cons_of_mem _ hk)

theorem Coherent.orphaned_of_abandon (h : s.Coherent) (hp : s.phase = .starting)
    (hn : s.stage n = .opening s.controller.generation)
    (ht : s.fire (.call n .abandon) = some t) : t.Orphaned := by
  obtain ⟨c, d, hc, hf, hs⟩ := fireCall_cases ht
  obtain ⟨e, he, hed⟩ := Option.map_eq_some_iff.1 hf
  obtain ⟨hcontroller, rfl⟩ := Prod.mk.inj hed
  have hcalls : t.calls = s.calls.set n e := by rw [hs]
  have hrefused : t.stage n = .refused := by
    rw [stage_self hc hcalls]
    rw [CallMove.abandon?] at he
    split at he
    · obtain rfl := Option.some.inj he
      rfl
    · cases he
  refine ⟨(congrArg Controller.phase hcontroller.symm).trans hp, fun k hk => ?_⟩
  rw [← hcontroller] at hk
  by_cases hkn : k = n
  · rw [hkn, hrefused] at hk
    cases hk
  · rw [stage_of_ne hkn hcalls] at hk
    exact hkn (h.numbered.distinct k n _ hk (hn ▸ rfl))

/-- When the caller of the watch that is being opened drops it, every other watch is refused from
then on, whatever happens at the handle, until somebody calls a stop. -/
theorem refuses_after_abandon (h : s.Reachable) (hp : s.phase = .starting)
    (hn : s.stage n = .opening s.controller.generation)
    (ht : s.fire (.call n .abandon) = some t) (hu : t.run moves = some u)
    (hstops : ∀ k, .stop k .enter ∉ moves) :
    u.phase = .starting ∧ (u.released = false → u.Refuses) := by
  have hphase := ((h.coherent.orphaned_of_abandon hp hn ht).run hu hstops).phase
  refine ⟨hphase, fun hr => refuses_of_phase_ne hr ?_⟩
  simp [hphase]

end System

end LiveTree.Watch
