import LiveTree.Proofs.Watch.Failing
import LiveTree.Proofs.Watch.Latecomers
import LiveTree.Proofs.Watch.Phases
import LiveTree.Proofs.Watch.Reconnection
import LiveTree.Proofs.Watch.SingleWatcher

namespace LiveTree.Watch

theorem Controller.settle_cleared (s : Controller) {g : Nat} (h : (s.settle g).generation = g) :
    (s.settle g).phase = .idle ∨ (s.settle g).phase = .stopping := by
  by_cases hg : s.generation = g
  · rw [settle, if_pos hg]
    cases hp : s.phase <;> simp [hp, reset]
  · rw [settle, if_neg hg] at h
    exact absurd h hg

theorem Pump.pump?_stage (p : Pump) : p.stage.pump? = some p.generation := by
  rw [stage]
  cases p.point <;> rfl

namespace Call.Effect

variable {number : Nat} {s t : Controller} {a b : Stage}

theorem eq_of_generation? (h : Effect number s t a b) (ha : a.generation? = none)
    (hb : b.generation? = none) : t = s := by
  cases h with
  | stay _ hs | refuse hs => exact hs
  | enter => exact nomatch hb
  | settle | overtaken | establish | abandon | mark | exhaust | retire => exact nomatch ha

theorem cancel (h : Effect number s t a b) :
    t.cancel = s.cancel ∨ t.cancel = none ∨ t.cancel = some number ∧ b ≠ .outside := by
  cases h with
  | stay _ hs | refuse hs | overtaken _ _ hs | abandon _ hs | exhaust _ hs =>
      exact .inl (congrArg Controller.cancel hs)
  | enter hs =>
      obtain ⟨-, rfl⟩ := Controller.begin?_eq_some hs
      exact .inr (.inr ⟨rfl, nofun⟩)
  | establish g hs =>
      obtain ⟨-, -, rfl⟩ := Controller.establish?_eq_some hs
      exact .inl rfl
  | settle g hs | retire g hs =>
      obtain hs' | ⟨hs', -⟩ := s.settle_cases g
      · exact .inl (congrArg Controller.cancel (hs.trans hs'))
      · exact .inr (.inl (congrArg Controller.cancel (hs.trans hs')))
  | mark g hs =>
      obtain hs' | ⟨hs', -⟩ := s.markFailed_cases g <;> exact .inl (by rw [hs, hs'])

end Call.Effect

theorem StopMove.Effect.cancel {hasEnded : Nat → Bool} {s t : Controller} {p q : StopPoint}
    {cancelled : Option Nat} (h : Effect hasEnded s t p cancelled q) :
    (t.cancel = s.cancel ∨ t.cancel = none) ∧ (cancelled = none ∨ cancelled = s.cancel) := by
  cases h with
  | already _ hs | share _ hs | join _ _ _ hs | abandon _ _ hs =>
      exact ⟨.inl (congrArg Controller.cancel hs), .inl rfl⟩
  | take _ _ hs => exact ⟨.inr (congrArg Controller.cancel hs), .inr rfl⟩
  | leave g hs =>
      obtain hs' | ⟨hs', -⟩ := s.finishStop_cases g
      · exact ⟨.inl (congrArg Controller.cancel (hs.trans hs')), .inl rfl⟩
      · exact ⟨.inr (congrArg Controller.cancel (hs.trans hs')), .inl rfl⟩

theorem CallMove.eq_enter {number g : Nat} {cancelled : Bool} {s t : Controller} {c d : Call}
    {m : CallMove} (h : m.fire number cancelled s c = some (t, d)) (hc : c.stage = .outside)
    (hd : d.stage = .opening g) : m = .enter := by
  have he := fire_effect h
  rw [hc, hd] at he
  cases fire_section h with
  | enter => rfl
  | settle _ hs | establish _ hs | mark _ hs | retire _ hs => exact nomatch hc.symm.trans hs
  | quiet _ hs =>
      -- claiming changes the generation, so it is no quiet step
      generalize hb : Stage.opening g = b at he
      cases he with
      | stay | refuse => exact nomatch hb
      | enter hbegin =>
          obtain ⟨-, ht⟩ := Controller.begin?_eq_some hbegin
          have hgeneration : t.generation = s.generation + 1 := by rw [ht]
          rw [hs] at hgeneration
          omega

namespace System

variable {s t : System} {m : Move} {n g : Nat} {f : Failure} {moves : List Move}

theorem Turn.refused (ht : s.Turn t) (h : s.stage n = .refused) : t.stage n = .refused := by
  obtain hs | he := ht.stage_cases n
  · rwa [hs]
  · rw [h] at he
    generalize t.stage n = b at he
    cases he with
    | stay => rfl

theorem Turn.opening (ht : s.Turn t) (h : t.stage n = .opening g) (hn : s.stage n ≠ .outside) :
    s.stage n = .opening g := by
  obtain hs | he := ht.stage_cases n
  · rwa [hs] at h
  · rw [h] at he
    generalize s.stage n = a at he hn
    cases he with
    | stay => rfl
    | enter => exact absurd rfl hn

theorem opening_of_run (hr : s.run moves = some t) (h : t.stage n = .opening g)
    (hn : s.stage n ≠ .outside) : s.stage n = .opening g := by
  induction moves generalizing s with
  | nil => exact Option.some.inj hr ▸ h
  | cons m moves ih =>
      obtain ⟨u, hu, hr⟩ := run_cons.1 hr
      have hturn := fire_turn hu
      exact hturn.opening (ih hr (hturn.begun hn)) hn

theorem stage_of_settle (hm : s.fire (.call n .settle) = some t) : t.stage n = .refused := by
  obtain ⟨c, d, hc, hf, ht⟩ := fireCall_cases hm
  rw [stage_self hc (by rw [ht])]
  obtain ⟨e, f, -, -, rfl⟩ := CallMove.settle?_eq_some hf
  rfl

theorem Reachable.silent_of_refused (h : s.Reachable) (hr : s.run moves = some t)
    (ht : t.stage n = .refused) : s.pump? n = none ∧ s.sent n = [] := by
  have hpump : s.pump? n = none := by
    cases hp : s.pump? n with
    | none => rfl
    | some p =>
        have hs : (s.stage n).pump? = some p.generation := by
          rw [stage_of_pump? hp, Pump.pump?_stage]
        have hlater : (t.stage n).pump? = some p.generation :=
          run_keeps (P := fun u => (u.stage n).pump? = some p.generation)
            (fun hturn hu => hturn.pump? hu) hr hs
        rw [ht] at hlater
        exact nomatch hlater
  refine ⟨hpump, ?_⟩
  cases hc : s.calls[n]? with
  | none => rw [sent, hc]; rfl
  | some c =>
      rw [pump?, hc] at hpump
      rw [sent_of_getElem? hc, h.sent_of_pump? hc hpump]

theorem Founded.generation?_of_already (hs : s.Founded n) (hr : s.run moves = some t)
    (hg : ∀ m ∈ moves, m.isGenuine = true) (ht : t.point n = .refused .alreadyWatching) :
    (s.stage n).generation? = none := by
  by_cases hp : s.point n = .refused .alreadyWatching
  · rw [stage_eq_point, hp]
    rfl
  · obtain ⟨before, k, after, u, v, rfl, hu, -, -, -, hne, hfailing⟩ := exists_refusal hr hp ht
    have hfounded : u.Founded n := hs.run hu fun m hm => hg m (List.mem_append_left _ hm)
    have hgenuine : (Move.call n k).isGenuine = true :=
      hg _ (List.mem_append_right _ (List.mem_cons_self ..))
    generalize hpoint : u.point n = p at hfailing hne
    cases hfailing with
    | stay => exact absurd rfl hne
    | reject => exact nomatch hgenuine
    | settle g _ => exact nomatch hfounded g _ hpoint
    | claimed =>
        -- at that moment the call had not come to the controller, so neither had it before
        have hout : u.stage n = .outside := by
          rw [stage_eq_point, hpoint]
          rfl
        cases hstage : s.stage n with
        | outside | refused => rfl
        | opening | active | retiring | settled =>
            exact absurd hout (begun_run hu (by simp [hstage]))

theorem Reachable.cleared_of_overtaken (h : s.Reachable) (hn : s.stage n = .opening g)
    (he : s.controller.establish? g n = none) (hg : s.controller.generation = g) :
    s.phase = .idle ∨ s.phase = .stopping := by
  have hrunning : ¬ (s.phase = .streaming ∨ s.phase = .failed) := by
    intro hp
    obtain ⟨k, hk⟩ := h.attended.running_of_phase hp
    rw [hg] at hk
    -- the pump that runs would have the generation of the call that still opens
    have hkn : k = n := by
      apply h.coherent.numbered.distinct k n g
      · obtain hs | hs := Stage.running?_eq_some.1 hk <;> rw [hs] <;> rfl
      · rw [hn]
        rfl
    rw [hkn, hn] at hk
    cases hk
  have hstarting : s.phase ≠ .starting := by
    intro hp
    rw [Controller.establish?, if_pos ⟨hg, hp⟩] at he
    cases he
  cases hp : s.phase with
  | idle => exact .inl rfl
  | stopping => exact .inr rfl
  | starting => exact absurd hp hstarting
  | streaming => exact absurd (.inl hp) hrunning
  | failed => exact absurd (.inr hp) hrunning

theorem Reachable.cleared_of_refused (h : s.Reachable) (hn : s.stage n = .opening g)
    (hr : s.run moves = some t) (ht : t.point n = .refused f) : t.Awaits g True := by
  have hopens : s.point n ≠ .refused f := by
    intro hp
    rw [stage_eq_point, hp] at hn
    exact nomatch hn
  obtain ⟨before, k, after, u, v, rfl, hu, hm, hafter, -, hne, hfailing⟩ :=
    exists_refusal hr hopens ht
  have hreachable : u.Reachable := h.run hu
  have hopening : s.stage n ≠ .outside := by simp [hn]
  have hbegun : u.stage n ≠ .outside := begun_run hu hopening
  have hstage := stage_eq_point u n
  have hown {e : Nat} (he : u.stage n = .opening e) : e = g :=
    Stage.opening.inj ((opening_of_run hu he hopening).symm.trans hn)
  have hle : g ≤ v.controller.generation := by
    have hs : g ≤ s.controller.generation := h.coherent.numbered.bounded n g (by rw [hn]; rfl)
    exact Nat.le_trans (Nat.le_trans hs (generation_le_of_run hu)) (fire_turn hm).shift.generation_le
  have hcleared : g = v.controller.generation → v.phase = .idle ∨ v.phase = .stopping := by
    intro hg
    rw [phase]
    generalize u.point n = p at hfailing hne hstage
    cases hfailing with
    | stay => exact absurd rfl hne
    | reject | claimed => exact absurd hstage hbegun
    | settle e _ hs =>
        obtain rfl := hown hstage
        rw [hs] at hg ⊢
        exact u.controller.settle_cleared hg.symm
    | overtaken e a he hs =>
        obtain rfl := hown hstage
        rw [hs] at hg ⊢
        exact hreachable.cleared_of_overtaken hstage he hg.symm
  have hv : v.Awaits g True := ⟨hle, fun hg => (hcleared hg).imp_right fun hp => ⟨hp, trivial⟩⟩
  exact run_keeps (P := fun w => w.Awaits g True)
    (fun hturn hw => hw.turn hturn fun _ _ _ _ => trivial) hafter hv

theorem Reachable.uncancelled (h : s.Reachable) (hn : s.stage n = .outside) :
    s.controller.cancel ≠ some n ∧ s.isCancelled n = false := by
  let P (s : System) : Prop := ∀ n, s.stage n = .outside →
    s.controller.cancel ≠ some n ∧ s.isCancelled n = false
  suffices hs : P s from hs n hn
  refine h.induction (fun n _ => ⟨(Option.some_ne_none n).symm, rfl⟩) ?_
  intro s t m hs hm n hn
  have hnone : none ≠ some n := (Option.some_ne_none n).symm
  have hout : s.stage n = .outside := Decidable.of_not_not fun h => (fire_turn hm).begun h hn
  obtain ⟨hcancel, hcancelled⟩ := hs n hout
  have happend {o : Option Nat} (ho : o ≠ some n) : (o.toList ++ s.cancelled).contains n = false := by
    cases o with
    | none => exact hcancelled
    | some k =>
        rw [isCancelled] at hcancelled
        have hk : n ≠ k := fun hk => ho (congrArg some hk.symm)
        simpa [hk] using hcancelled
  cases m with
  | openCall capacity replicating =>
      rw [openCall_cases hm]
      exact ⟨hcancel, hcancelled⟩
  | openStop =>
      rw [openStop_cases hm]
      exact ⟨hcancel, hcancelled⟩
  | release =>
      rw [(release_cases hm).2]
      exact ⟨hnone, happend hcancel⟩
  | stop k m =>
      obtain ⟨p, cancelled, q, -, hf, ht⟩ := fireStop_cases hm
      obtain ⟨hc, hk⟩ := (StopMove.fire_effect hf).cancel
      constructor
      · obtain hc | hc := hc <;> rw [hc]
        · exact hcancel
        · exact hnone
      · rw [isCancelled, ht]
        apply happend
        obtain rfl | rfl := hk
        · exact hnone
        · exact hcancel
  | call k m =>
      obtain ⟨c, d, hc, hf, ht⟩ := fireCall_cases hm
      refine ⟨?_, by rw [ht]; exact hcancelled⟩
      have hstage : t.stage k = d.stage := stage_self hc (by rw [ht])
      obtain hc | hc | ⟨hc, hk⟩ := (CallMove.fire_effect hf).cancel <;> rw [hc]
      · exact hcancel
      · exact hnone
      · rintro ⟨⟩
        exact hk (hstage.symm.trans hn)

/-- The watch of a call is being opened or streams, and nobody has cancelled it. -/
def Undisturbed (s : System) (n g : Nat) : Prop :=
  s.controller.Holds g ∧ s.isCancelled n = false

theorem Undisturbed.fire (h : s.Undisturbed n g) (hs : s.Coherent) (hm : s.fire m = some t)
    (hn : s.stage n = .opening g) (hn' : t.stage n = .opening g)
    (hstop : ∀ k, m ≠ .stop k .enter) : t.Undisturbed n g := by
  obtain ⟨hholds, hcancelled⟩ := h
  have hg : (s.stage n).generation? = some g := by
    rw [hn]
    rfl
  constructor
  · apply Classical.byContradiction
    intro hover
    -- nothing but the call itself could end its watch, and it has not
    cases ending_of_holds hm hholds hover fun k hk => hs.numbered.distinct k n g hk hg with
    | opening => exact nomatch hn'.symm.trans (stage_of_settle hm)
    | report hs | retire hs => exact nomatch hn.symm.trans hs
    | stop k => exact hstop k rfl
  · obtain hsame | ⟨k, rfl⟩ | rfl := cancelled_fire hm
    · rwa [isCancelled, hsame]
    · exact absurd rfl (hstop k)
    · exact absurd hn (stage_ne_opening (release_cases hm).1 g)

theorem Undisturbed.run (h : s.Undisturbed n g) (hs : s.Coherent) (hr : s.run moves = some t)
    (hn : s.stage n = .opening g) (hn' : t.stage n = .opening g) :
    t.Undisturbed n g ∨ ∃ k, .stop k .enter ∈ moves := by
  induction moves generalizing s with
  | nil => exact .inl (Option.some.inj hr ▸ h)
  | cons m moves ih =>
      obtain ⟨u, hu, hr⟩ := run_cons.1 hr
      have hturn := fire_turn hu
      have hopening : u.stage n = .opening g :=
        opening_of_run hr hn' (hturn.begun (by simp [hn]))
      by_cases hm : ∃ k, m = .stop k .enter
      · obtain ⟨k, rfl⟩ := hm
        exact .inr ⟨k, List.mem_cons_self ..⟩
      · have hnext := h.fire hs hu hn hopening fun k hk => hm ⟨k, hk⟩
        obtain ht | ⟨k, hk⟩ := ih hnext (hs.turn hturn) hr hopening
        · exact .inl ht
        · exact .inr ⟨k, List.mem_cons_of_mem _ hk⟩

/-- Whoever awaits an answer has claimed the controller, and if its watch is disturbed, then by a
stop that has begun since. -/
theorem exists_stop_of_opening (hr : new.run moves = some s) (hn : s.stage n = .opening g)
    (hs : ¬ s.Undisturbed n g) : ∃ before during k,
      moves = before ++ .call n .enter :: during ∧ .stop k .enter ∈ during := by
  have hbegun : s.stage n ≠ .outside := by simp [hn]
  obtain ⟨before, m, during, u, v, rfl, hu, hm, hv, hout, hstage⟩ :=
    exists_turning (P := fun u => u.stage n ≠ .outside) hr (fun h => h rfl) hbegun
  have hout : u.stage n = .outside := Decidable.of_not_not hout
  have hopening : v.stage n = .opening g := opening_of_run hv hn hstage
  have hreachable : u.Reachable := reachable_new.run hu
  obtain ⟨k, rfl⟩ : ∃ k, m = .call n k := by
    apply Classical.byContradiction
    intro hk
    apply hstage
    rw [stage_eq_point, point_fire hm fun k h => hk ⟨k, h⟩, ← stage_eq_point, hout]
  obtain rfl : k = .enter := by
    obtain ⟨c, d, hc, hf, ht⟩ := fireCall_cases hm
    exact CallMove.eq_enter hf ((stage_of_getElem? hc).symm.trans hout)
      ((stage_self hc (by rw [ht])).symm.trans hopening)
  have hclaimed : v.Undisturbed n g := by
    constructor
    · obtain ⟨-, hrefused⟩ | ⟨hbegin, hg⟩ := start_cases hm
      · exact nomatch hopening.symm.trans hrefused
      · obtain ⟨-, hc⟩ := Controller.begin?_eq_some hbegin
        refine ⟨Stage.opening.inj (hg.symm.trans hopening), .inl ?_⟩
        rw [hc]
    · obtain ⟨c, d, -, -, ht⟩ := fireCall_cases hm
      rw [isCancelled, ht]
      exact (hreachable.uncancelled hout).2
  obtain hs' | ⟨k, hk⟩ := hclaimed.run (hreachable.fire hm).coherent hv hopening hn
  · exact absurd hs' hs
  · exact ⟨before, during, k, rfl, hk⟩

theorem result?_of_opening (h : s.stage n = .opening g) : s.result? n = none := by
  have hmade : s.stage n ≠ .outside := by simp [h]
  obtain ⟨c, hc, hs⟩ := exists_call hmade
  have hpending : c.isPending = true := Call.isPending_of_opening (hs.symm.trans h)
  rw [result?, hc]
  obtain ⟨replicating, channel, point⟩ := c
  cases point with
  | entering | awaiting | withdrawing | connected => rfl
  | pumping | refused | abandoned => cases hpending

theorem Founded.already {u v : System} {k : CallMove} (hu : u.Founded n)
    (hk : u.fire (.call n k) = some v) (hr : v.run moves = some s)
    (hg : ∀ m ∈ .call n k :: moves, m.isGenuine = true)
    (hs : s.point n = .refused .alreadyWatching) :
    k ≠ .issue ∧ v.controller = u.controller ∧ v.cancelled = u.cancelled := by
  have hv : v.Founded n := hu.fire hk (hg _ (List.mem_cons_self ..))
  have hu' := hu.generation?_of_already (run_cons.2 ⟨v, hk, hr⟩) hg hs
  have hv' := hv.generation?_of_already hr (fun m hm => hg m (List.mem_cons_of_mem _ hm)) hs
  obtain ⟨c, d, hc, hf, ht⟩ := fireCall_cases hk
  rw [stage_of_getElem? hc] at hu'
  rw [stage_self hc (by rw [ht])] at hv'
  refine ⟨?_, (CallMove.fire_effect hf).eq_of_generation? hu' hv', by rw [ht]⟩
  rintro rfl
  obtain ⟨g, hpoint, -⟩ := CallMove.issue?_eq_some (CallMove.eq_of_map hf).2
  rw [Call.stage, hpoint] at hu'
  cases hu'

/-- A call is told that it was stopped only when it awaits its answer and somebody has disturbed its
watch. -/
theorem exists_stopped (hr : new.run moves = some s) (hg : ∀ m ∈ moves, m.isGenuine = true)
    (hs : s.point n = .refused .stopped) : ∃ before k after u v g,
      moves = before ++ .call n k :: after ∧ new.run before = some u ∧
        u.fire (.call n k) = some v ∧ v.point n = .refused .stopped ∧
          u.stage n = .opening g ∧ ¬ u.Undisturbed n g := by
  obtain ⟨before, k, after, u, v, rfl, hu, hk, -, hv, hne, hfailing⟩ := exists_refusal hr nofun hs
  have hgenuine : (Move.call n k).isGenuine = true :=
    hg _ (List.mem_append_right _ (List.mem_cons_self ..))
  have hfounded : u.Founded n := (founded_new n).run hu fun m hm => hg m (List.mem_append_left _ hm)
  have hstage := stage_eq_point u n
  suffices hd : ∃ g, u.stage n = .opening g ∧ ¬ u.Undisturbed n g by
    obtain ⟨g, hn, hd⟩ := hd
    exact ⟨before, k, after, u, v, g, rfl, hu, hk, hv, hn, hd⟩
  generalize hp : u.point n = p at hfailing hne hstage
  cases hfailing with
  | stay => exact absurd rfl hne
  | reject => exact nomatch hgenuine
  | settle g _ =>
      refine ⟨g, hstage, fun hd => ?_⟩
      obtain hf | ⟨-, hcancelled⟩ := hfounded g _ hp
      · exact nomatch hf
      · exact nomatch hcancelled.symm.trans hd.2
  | overtaken g a hn =>
      refine ⟨g, hstage, fun hd => ?_⟩
      obtain ⟨hg, hphase⟩ := hd.1
      obtain hp' | hp' := (reachable_new.run hu).cleared_of_overtaken hstage hn hg <;>
        simp [show u.controller.phase = _ from hp'] at hphase

/-- A refusal at the end of a run, seen over all of it and over what may follow. -/
structure StartsNothing (moves : List Move) (s : System) (n : Nat) (f : Failure) : Prop where
  silent : ∀ later before after t u, s.run later = some t → moves ++ later = before ++ after →
    new.run before = some u → u.pump? n = none ∧ u.sent n = []
  already : f = .alreadyWatching → ∀ before m after u v, moves = before ++ .call n m :: after →
    new.run before = some u → u.fire (.call n m) = some v →
      m ≠ .issue ∧ v.controller = u.controller ∧ v.cancelled = u.cancelled
  cleared : ∀ before after u g, moves = before ++ after → new.run before = some u →
    u.stage n = .opening g → s.controller.generation = g → s.phase = .idle ∨ s.phase = .stopping
  stopped : f = .stopped → ∃ before during m after u v,
    moves = before ++ .call n .enter :: during ++ .call n m :: after ∧
      new.run (before ++ .call n .enter :: during) = some u ∧ u.result? n = none ∧
        u.fire (.call n m) = some v ∧ v.result? n = some (.error .stopped) ∧
          ∃ k, .stop k .enter ∈ during

/-- A call that was refused never has a pump and never sends anything, not even later. If it was
refused because the controller was in use, none of its steps issued a request or changed the
controller. Whatever it was refused for, its own watch is then in no phase but that of stopping. It
is told that it was stopped only if a stop began after it had claimed the controller and before it
was told. -/
theorem refused_starts_nothing (h : new.run moves = some s)
    (hg : ∀ m ∈ moves, m.isGenuine = true) (hf : s.result? n = some (.error f)) :
    StartsNothing moves s n f := by
  have hpoint : s.point n = .refused f := result?_eq_error.1 hf
  refine ⟨?_, ?_, ?_, ?_⟩
  · intro later before after t u hlater hsplit hu
    have hs : s.stage n = .refused := by
      rw [stage_eq_point, hpoint]
      rfl
    have ht : t.stage n = .refused :=
      run_keeps (P := fun v => v.stage n = .refused) (fun hturn hv => hturn.refused hv) hlater hs
    have hafter : u.run after = some t := by
      rw [← run_append_of hu, ← hsplit, run_append_of h, hlater]
    exact (reachable_new.run hu).silent_of_refused hafter ht
  · rintro rfl before m after u v rfl hu hv
    rw [run_append_of hu] at h
    obtain ⟨w, hw, hafter⟩ := run_cons.1 h
    obtain rfl := Option.some.inj (hv.symm.trans hw)
    have hfounded : u.Founded n :=
      (founded_new n).run hu fun k hk => hg k (List.mem_append_left _ hk)
    exact hfounded.already hv hafter (fun k hk => hg k (List.mem_append_right _ hk)) hpoint
  · rintro before after u g rfl hu hn rfl
    rw [run_append_of hu] at h
    obtain ⟨-, hcleared⟩ := (reachable_new.run hu).cleared_of_refused hn h hpoint
    exact (hcleared rfl).imp_right And.left
  · rintro rfl
    obtain ⟨before, m, after, u, v, g, rfl, hu, hm, hv, hn, hs⟩ := exists_stopped h hg hpoint
    obtain ⟨first, during, k, rfl, hk⟩ := exists_stop_of_opening hu hn hs
    exact ⟨first, during, m, after, u, v, rfl, hu, result?_of_opening hn, hm,
      result?_eq_error.2 hv, k, hk⟩

/-- Four calls at one handle: the address of the first is no URL, the server is silent for the
second, the third is stopped while the fourth finds the controller in use. -/
theorem refused_starts_nothing_four : ∃ (moves : List Move) (s : System) (f e : Failure),
    new.run moves = some s ∧
      (s.result? 0 = some (.error f) ∧ StartsNothing moves s 0 f) ∧
      (s.result? 1 = some (.error e) ∧ StartsNothing moves s 1 e) ∧
      (s.result? 2 = some (.error .stopped) ∧ StartsNothing moves s 2 .stopped) ∧
      s.result? 3 = some (.error .alreadyWatching) ∧
        StartsNothing moves s 3 .alreadyWatching := by
  let f : Failure := .invalidUrl .noScheme
  let e : Failure := .timeout Exchange.elapsedText
  let moves : List Move := [.openCall none true, .call 0 (.reject f), .openCall none true,
    .call 1 .enter, .call 1 .issue, .call 1 (.answer (.error e)), .call 1 .settle,
    .openCall (some 1) false, .call 2 .enter, .call 2 .issue, .openCall none true, .call 3 .enter,
    .openStop, .stop 0 .enter, .call 2 .withdraw, .call 2 .settle, .stop 0 .join]
  have hg : ∀ m ∈ moves, m.isGenuine = true := List.all_eq_true.1 rfl
  let s : System := (new.run moves).get (by decide +kernel)
  have h : new.run moves = some s := (Option.some_get _).symm
  have hrejected : (s.point 0).failure? = some f ∧ s.stage 0 = .refused := by decide +kernel
  have hfailed : (s.point 1).failure? = some e ∧ s.stage 1 = .refused := by decide +kernel
  have hstopped : (s.point 2).failure? = some .stopped ∧ s.stage 2 = .refused := by decide +kernel
  have halready : (s.point 3).failure? = some .alreadyWatching ∧ s.stage 3 = .refused := by
    decide +kernel
  have hall (n : Nat) (f : Failure) (hf : (s.point n).failure? = some f ∧ s.stage n = .refused) :
      s.result? n = some (.error f) ∧ StartsNothing moves s n f := by
    have hresult := result?_of_failure? hf.1 hf.2
    exact ⟨hresult, refused_starts_nothing h hg hresult⟩
  exact ⟨moves, s, f, e, h, hall 0 f hrejected, hall 1 e hfailed, hall 2 _ hstopped,
    hall 3 _ halready⟩

end System

end LiveTree.Watch
