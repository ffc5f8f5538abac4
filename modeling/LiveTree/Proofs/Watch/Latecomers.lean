import LiveTree.Proofs.Watch.Attendance

namespace LiveTree.Watch

namespace Controller

/-- The watch of some generation is being opened, or streams. -/
def Holds (s : Controller) (g : Nat) : Prop :=
  s.generation = g ∧ (s.phase = .starting ∨ s.phase = .streaming)

variable {s : Controller} {g : Nat}

theorem settle_of_lt (h : g < s.generation) : s.settle g = s := by
  obtain hs | ⟨-, rfl, -⟩ := s.settle_cases g
  · exact hs
  · exact absurd h (Nat.lt_irrefl _)

theorem markFailed_of_lt (h : g < s.generation) : s.markFailed g = s := by
  obtain hs | ⟨-, rfl, -⟩ := s.markFailed_cases g
  · exact hs
  · exact absurd h (Nat.lt_irrefl _)

theorem finishStop_of_lt (h : g < s.generation) : s.finishStop g = s := by
  obtain hs | ⟨-, rfl, -⟩ := s.finishStop_cases g
  · exact hs
  · exact absurd h (Nat.lt_irrefl _)

theorem establish?_of_lt (h : g < s.generation) (call : Nat) : s.establish? g call = none := by
  cases hs : s.establish? g call with
  | none => rfl
  | some t =>
      obtain ⟨rfl, -⟩ := establish?_eq_some hs
      exact absurd h (Nat.lt_irrefl _)

end Controller

/-- What a step of a call at some stage does to the controller: nothing, or what the section does
that the step runs, for the generation of the call. -/
inductive CallMove.Section (number : Nat) (s t : Controller) (a : Stage) : CallMove → Prop
  | quiet (m : CallMove) (hs : t = s) : Section number s t a m
  | enter (ha : a = .outside) (hs : s.begin? number = some t) : Section number s t a .enter
  | settle (g : Nat) (ha : a = .opening g) (hs : t = s.settle g) : Section number s t a .settle
  | establish (g : Nat) (ha : a = .opening g) (hs : s.establish? g number = some t) :
      Section number s t a .establish
  | mark (g : Nat) (ha : a = .active g) (hs : t = s.markFailed g) : Section number s t a .mark
  | retire (g : Nat) (ha : a = .retiring g) (hs : t = s.settle g) : Section number s t a .retire

theorem CallMove.fire_section {number : Nat} {cancelled : Bool} {s t : Controller} {c d : Call}
    {m : CallMove} (h : m.fire number cancelled s c = some (t, d)) :
    m.Section number s t c.stage := by
  rw [Call.stage]
  cases m with
  | reject | issue | answer | withdraw | abandon | poll | look | offer | close | receive =>
      exact .quiet _ (eq_of_map h).1
  | dropReceiver => exact .quiet _ (Prod.mk.inj (Option.some.inj h)).1.symm
  | enter =>
      obtain ⟨hc, ⟨hs, -⟩ | ⟨-, hs, -⟩⟩ := enter?_eq_some h
      · exact .enter (by rw [hc]) hs
      · exact .quiet _ hs
  | settle =>
      obtain ⟨g, f, hc, hs, -⟩ := settle?_eq_some h
      exact .settle g (by rw [hc]) hs
  | establish =>
      obtain ⟨g, a, hc, ⟨hs, -⟩ | ⟨-, hs, -⟩⟩ := establish?_eq_some h
      · exact .establish g (by rw [hc]) hs
      · exact .quiet _ hs
  | mark =>
      obtain ⟨p, f, hc, hp, hs, -⟩ := mark?_eq_some h
      exact .mark p.generation (by simp only [hc, Pump.stage, hp]) hs
  | retire =>
      obtain ⟨p, hc, hp, hs, -⟩ := retire?_eq_some h
      exact .retire p.generation (by simp only [hc, Pump.stage, hp]) hs

theorem StopMove.Effect.begun {hasEnded : Nat → Bool} {s t : Controller} {p q : StopPoint}
    {cancelled : Option Nat} (h : Effect hasEnded s t p cancelled q) (hp : p ≠ .entering) :
    cancelled = none ∧ (t = s ∨ ∃ g, p = .leaving g ∧ t = s.finishStop g) := by
  cases h with
  | already | share | take => exact absurd rfl hp
  | join _ _ _ hs | abandon _ _ hs => exact ⟨rfl, .inl hs⟩
  | leave g hs => exact ⟨rfl, .inr ⟨g, rfl, hs⟩⟩

theorem StopMove.ne_entering {hasEnded : Nat → Bool} {s : Controller} {p : StopPoint}
    {r : Controller × Option Nat × StopPoint} {m : StopMove} (h : m.fire hasEnded s p = some r)
    (hm : m ≠ .enter) : p ≠ .entering := by
  rintro rfl
  cases m with
  | enter => exact hm rfl
  | join | leave | abandon => simp [fire] at h

/-- A call that has come to the controller, and has no generation from the given one on. -/
def Stage.Before (g : Nat) (a : Stage) : Prop :=
  a ≠ .outside ∧ ∀ e, a.generation? = some e → e < g

theorem Call.Effect.before {number g : Nat} {s t : Controller} {a b : Stage}
    (h : Effect number s t a b) (ha : a.Before g) : b.Before g := by
  obtain ⟨hout, hlt⟩ := ha
  cases h with
  | stay => exact ⟨hout, hlt⟩
  | refuse | enter => exact absurd rfl hout
  | settle | overtaken | abandon => exact ⟨nofun, nofun⟩
  | establish e | mark e | exhaust e | retire e => exact ⟨nofun, hlt⟩

/-- A stop that has begun, and waits for no generation from the given one on. -/
def StopPoint.Before (g : Nat) : StopPoint → Prop
  | .entering => False
  | .joining e _ | .leaving e => e < g
  | .returned | .abandoned => True

theorem StopMove.Effect.before {hasEnded : Nat → Bool} {g : Nat} {s t : Controller}
    {p q : StopPoint} {cancelled : Option Nat} (h : Effect hasEnded s t p cancelled q)
    (hp : p.Before g) : q.Before g := by
  cases h with
  | already | share | take => exact hp.elim
  | join => exact hp
  | leave | abandon => trivial

namespace System

variable {s t : System} {m : Move} {n g : Nat}

/-- The steps that end the watch of some generation, which the call of some number has opened: the
end of its opening or of its pump, the report of its failure, and a stop that begins. -/
inductive Ending (s : System) (n g : Nat) : Move → Prop
  | opening (hn : s.stage n = .opening g) : Ending s n g (.call n .settle)
  | report (hn : s.stage n = .active g) : Ending s n g (.call n .mark)
  | retire (hn : s.stage n = .retiring g) : Ending s n g (.call n .retire)
  | stop (k : Nat) : Ending s n g (.stop k .enter)

theorem ending_of_holds (hm : s.fire m = some t) (hs : s.controller.Holds g)
    (ht : ¬ t.controller.Holds g) (hown : ∀ k, (s.stage k).generation? = some g → k = n) :
    s.Ending n g m := by
  have hsame : t.controller ≠ s.controller := fun hc => ht (hc ▸ hs)
  obtain ⟨rfl, hphase⟩ := hs
  cases m with
  | openCall capacity replicating => exact absurd (by rw [openCall_cases hm]) hsame
  | openStop => exact absurd (by rw [openStop_cases hm]) hsame
  | release =>
      rw [(release_cases hm).2] at ht
      exact absurd ⟨rfl, hphase⟩ ht
  | stop k m =>
      obtain ⟨p, cancelled, q, -, hf, -⟩ := fireStop_cases hm
      by_cases hk : m = .enter
      · rw [hk]
        exact .stop k
      · obtain ⟨-, hc | ⟨e, -, hc⟩⟩ := (StopMove.fire_effect hf).begun (StopMove.ne_entering hf hk)
        · exact absurd hc hsame
        · -- the last section of a stop finds a phase that it leaves alone
          obtain hc' | ⟨-, -, hp⟩ := s.controller.finishStop_cases e
          · exact absurd (hc.trans hc') hsame
          · simp [hp] at hphase
  | call k m =>
      obtain ⟨c, d, hc, hf, -⟩ := fireCall_cases hm
      have hsection := CallMove.fire_section hf
      rw [← stage_of_getElem? hc] at hsection
      cases hsection with
      | quiet _ hc => exact absurd hc hsame
      | enter _ hc => simp [(Controller.begin?_eq_some hc).1] at hphase
      | establish e _ hc =>
          obtain ⟨-, -, hc⟩ := Controller.establish?_eq_some hc
          rw [hc] at ht
          exact absurd ⟨rfl, .inr rfl⟩ ht
      | settle e hk hc =>
          obtain hc' | ⟨-, rfl, -⟩ := s.controller.settle_cases e
          · exact absurd (hc.trans hc') hsame
          · obtain rfl := hown k (by rw [hk]; rfl)
            exact .opening hk
      | mark e hk hc =>
          obtain hc' | ⟨-, rfl, -⟩ := s.controller.markFailed_cases e
          · exact absurd (hc.trans hc') hsame
          · obtain rfl := hown k (by rw [hk]; rfl)
            exact .report hk
      | retire e hk hc =>
          obtain hc' | ⟨-, rfl, -⟩ := s.controller.settle_cases e
          · exact absurd (hc.trans hc') hsame
          · obtain rfl := hown k (by rw [hk]; rfl)
            exact .retire hk

theorem cancelled_fire (hm : s.fire m = some t) :
    t.cancelled = s.cancelled ∨ (∃ k, m = .stop k .enter) ∨ m = .release := by
  cases m with
  | openCall capacity replicating => exact .inl (by rw [openCall_cases hm])
  | openStop => exact .inl (by rw [openStop_cases hm])
  | release => exact .inr (.inr rfl)
  | call k m =>
      obtain ⟨c, d, -, -, ht⟩ := fireCall_cases hm
      exact .inl (by rw [ht])
  | stop k m =>
      by_cases hk : m = .enter
      · exact .inr (.inl ⟨k, by rw [hk]⟩)
      · obtain ⟨p, cancelled, q, -, hf, ht⟩ := fireStop_cases hm
        obtain ⟨rfl, -⟩ := (StopMove.fire_effect hf).begun (StopMove.ne_entering hf hk)
        exact .inl (by rw [ht]; rfl)

theorem generation?_of_run {k : Nat} {moves : List Move} (hr : s.run moves = some t)
    (hg : g ≤ s.controller.generation) (hk : (t.stage k).generation? = some g) :
    (s.stage k).generation? = some g := by
  induction moves generalizing s with
  | nil => exact Option.some.inj hr ▸ hk
  | cons m moves ih =>
      obtain ⟨u, hu, hr⟩ := run_cons.1 hr
      have hturn := fire_turn hu
      obtain hs | ⟨hnew, -⟩ := hturn.generation? (ih hr (Nat.le_trans hg hturn.shift.generation_le))
      · exact hs
      · omega

theorem generation_le_of_run {moves : List Move} (hr : s.run moves = some t) :
    s.controller.generation ≤ t.controller.generation :=
  run_keeps (fun ht hle => Nat.le_trans hle ht.shift.generation_le) hr (Nat.le_refl _)

/-- A step of a call or of a stop that has run its first section. -/
def Earlier (s : System) : Move → Prop
  | .call k _ => s.stage k ≠ .outside
  | .stop k _ => ∃ p, s.stops[k]? = some p ∧ p ≠ .entering
  | .openCall _ _ | .openStop | .release => False

def Behind (s : System) (g : Nat) : Move → Prop
  | .call k _ => (s.stage k).Before g
  | .stop k _ => ∃ p, s.stops[k]? = some p ∧ p.Before g
  | .openCall _ _ | .openStop | .release => False

theorem Coherent.behind (h : s.Coherent) (hm : s.Earlier m) :
    s.Behind (s.controller.generation + 1) m := by
  cases m with
  | openCall | openStop | release => exact hm
  | call k m => exact ⟨hm, fun e he => Nat.lt_succ_of_le (h.numbered.bounded k e he)⟩
  | stop k m =>
      obtain ⟨p, hp, hentered⟩ := hm
      refine ⟨p, hp, ?_⟩
      cases p with
      | entering => exact hentered rfl
      | joining e j => exact Nat.lt_succ_of_le (h.joining k e j hp).1
      | leaving e => exact Nat.lt_succ_of_le (h.leaving k e hp).1
      | returned | abandoned => trivial

theorem Behind.turn (h : s.Behind g m) (ht : s.Turn t) : t.Behind g m := by
  cases m with
  | openCall | openStop | release => exact h
  | call k m =>
      obtain hs | he := ht.stage_cases k
      · rw [Behind, hs]
        exact h
      · exact he.before h
  | stop k m =>
      obtain ⟨p, hp, hbefore⟩ := h
      obtain hp' | ⟨q, cancelled, hq, he⟩ := ht.stops_of hp
      · exact ⟨p, hp', hbefore⟩
      · exact ⟨q, hq, he.before hbefore⟩

theorem Behind.run {moves : List Move} (h : s.Behind g m) (hr : s.run moves = some t) :
    t.Behind g m :=
  run_keeps (P := fun u => u.Behind g m) (fun ht hb => hb.turn ht) hr h

/-- A step that is behind the controller's generation does nothing to it and cancels nothing. -/
theorem Behind.fire (h : s.Behind g m) (hg : g ≤ s.controller.generation)
    (hm : s.fire m = some t) : t.controller = s.controller ∧ t.cancelled = s.cancelled := by
  cases m with
  | openCall | openStop | release => exact h.elim
  | call k m =>
      obtain ⟨c, d, hc, hf, ht⟩ := fireCall_cases hm
      refine ⟨?_, by rw [ht]⟩
      have hsection := CallMove.fire_section hf
      rw [← stage_of_getElem? hc] at hsection
      obtain ⟨hout, hlt⟩ := h
      have hbehind {e : Nat} (he : (s.stage k).generation? = some e) :
          e < s.controller.generation := Nat.lt_of_lt_of_le (hlt e he) hg
      cases hsection with
      | quiet _ hs => exact hs
      | enter hk => exact absurd hk hout
      | settle e hk hs | retire e hk hs =>
          rw [hs]
          exact Controller.settle_of_lt (hbehind (by rw [hk]; rfl))
      | establish e hk hs =>
          have hnone := Controller.establish?_of_lt (hbehind (by rw [hk]; rfl)) k
          exact nomatch hnone.symm.trans hs
      | mark e hk hs =>
          rw [hs]
          exact Controller.markFailed_of_lt (hbehind (by rw [hk]; rfl))
  | stop k m =>
      obtain ⟨p, hp, hbefore⟩ := h
      obtain ⟨r, cancelled, q, hr, hf, ht⟩ := fireStop_cases hm
      obtain rfl := Option.some.inj (hp.symm.trans hr)
      have hentered : p ≠ .entering := by
        rintro rfl
        exact hbefore
      obtain ⟨rfl, hs⟩ := (StopMove.fire_effect hf).begun hentered
      refine ⟨?_, by rw [ht]; rfl⟩
      obtain hs | ⟨e, rfl, hs⟩ := hs
      · exact hs
      · rw [hs]
        exact Controller.finishStop_of_lt (Nat.lt_of_lt_of_le hbefore hg)

theorem run_behind {late : List Move} (h : ∀ m ∈ late, s.Behind g m)
    (hg : g ≤ s.controller.generation) (hr : s.run late = some t) :
    t.controller = s.controller ∧ t.cancelled = s.cancelled := by
  induction late generalizing s with
  | nil =>
      obtain rfl := Option.some.inj hr
      exact ⟨rfl, rfl⟩
  | cons m late ih =>
      obtain ⟨u, hu, hr⟩ := run_cons.1 hr
      obtain ⟨hc, hk⟩ := (h m (List.mem_cons_self ..)).fire hg hu
      have hlate : ∀ k ∈ late, u.Behind g k := fun k hk =>
        (h k (List.mem_cons_of_mem _ hk)).turn (fire_turn hu)
      obtain ⟨hc', hk'⟩ := ih hlate (hc ▸ hg) hr
      exact ⟨hc'.trans hc, hk'.trans hk⟩

theorem start_cases (h : s.fire (.call n .enter) = some t) :
    t.controller = s.controller ∧ t.stage n = .refused ∨
      s.controller.begin? n = some t.controller ∧
        t.stage n = .opening t.controller.generation := by
  obtain ⟨c, d, hc, hf, ht⟩ := fireCall_cases h
  rw [stage_self hc (by rw [ht])]
  obtain ⟨-, ⟨hs, rfl⟩ | ⟨-, hs, rfl⟩⟩ := CallMove.enter?_eq_some hf
  · exact .inr ⟨hs, rfl⟩
  · exact .inl ⟨hs, rfl⟩

/-- Once a call has begun a watch, only its own steps and stops that begin afterwards bring the
controller to another phase than those in which the watch is being opened or streams, and only such
stops and the end of the handle cancel it. Whatever began earlier can go on in any order and to any
end, and changes nothing about the watch. -/
theorem latecomers_harmless {s₀ s₁ s₂ : System} {during : List Move} (h : s₀.Reachable)
    (hstart : s₀.fire (.call n .enter) = some s₁) (hn : s₁.stage n = .opening g)
    (hduring : s₁.run during = some s₂) :
    (∀ m t, s₂.fire m = some t →
      (s₂.controller.Holds g → ¬ t.controller.Holds g → s₂.Ending n g m) ∧
        (s₂.isCancelled n = false → t.isCancelled n = true →
          (∃ k, m = .stop k .enter) ∨ m = .release)) ∧
      ∀ late t, (∀ m ∈ late, s₀.Earlier m) → s₂.run late = some t →
        t.controller = s₂.controller ∧ t.cancelled = s₂.cancelled := by
  obtain ⟨hcontroller, hg⟩ : s₁.controller.generation = s₀.controller.generation + 1 ∧
      g = s₁.controller.generation := by
    obtain ⟨-, hn'⟩ | ⟨hbegin, hn'⟩ := start_cases hstart
    · cases hn.symm.trans hn'
    · obtain ⟨-, hs⟩ := Controller.begin?_eq_some hbegin
      refine ⟨by rw [hs], Stage.opening.inj (hn.symm.trans hn')⟩
  constructor
  · intro m t hm
    refine ⟨fun hs ht => ending_of_holds hm hs ht fun k hk => ?_, fun hs ht => ?_⟩
    · -- the generation was given out when the call began, so no other call can have it
      have hk' := generation?_of_run hduring (Nat.le_of_eq hg) hk
      have hn' : (s₁.stage n).generation? = some g := by
        rw [hn]
        rfl
      exact (h.fire hstart).coherent.numbered.distinct k n g hk' hn'
    · obtain hsame | hother := cancelled_fire hm
      · rw [isCancelled, hsame, ← isCancelled, hs] at ht
        cases ht
      · exact hother
  · intro late t hlate hr
    have hbehind : ∀ m ∈ late, s₂.Behind g m := by
      intro m hm
      have hb := h.coherent.behind (hlate m hm)
      rw [← hcontroller, ← hg] at hb
      exact (hb.turn (fire_turn hstart)).run hduring
    exact run_behind hbehind (hg ▸ generation_le_of_run hduring) hr

/-- The pump of the first watch closes its channel, the answer to the second comes too late for it,
and the stop that shared its end goes on, all while the third watch streams. -/
theorem latecomers_harmless_streaming : ∃ s₀ s₁ s₂ t u : System, s₀.Reachable ∧
    s₀.fire (.call 2 .enter) = some s₁ ∧ s₁.stage 2 = .opening 3 ∧
      s₂.run [.call 0 .close, .call 1 .establish, .stop 1 .join, .stop 1 .leave] = some t ∧
        t.controller = s₂.controller ∧ t.cancelled = s₂.cancelled ∧ t.controller.Holds 3 ∧
          t.fire (.stop 2 .enter) = some u ∧ ¬ u.controller.Holds 3 ∧
            t.Ending 2 3 (.stop 2 .enter) := by
  let claim (n : Nat) : List Move := [.openCall none true, .call n .enter, .call n .issue]
  let begun : List Move := claim 0 ++ [.call 0 (.answer (.ok ⟨200, [], .closed, .utf8⟩)),
    .call 0 .establish, .call 0 .poll, .call 0 .retire] ++ claim 1 ++ [.openStop, .openStop,
    .stop 0 .enter, .stop 1 .enter, .stop 0 .join, .stop 0 .leave,
    .call 1 (.answer (.ok ⟨200, [], .held, .utf8⟩)), .openCall none false]
  let during : List Move := [.call 2 .issue, .call 2 (.answer (.ok ⟨200, [], .held, .utf8⟩)),
    .call 2 .establish, .openStop]
  let late : List Move := [.call 0 .close, .call 1 .establish, .stop 1 .join, .stop 1 .leave]
  let s₀ : System := (new.run begun).get (by decide +kernel)
  let s₁ : System := (s₀.fire (.call 2 .enter)).get (by decide +kernel)
  let s₂ : System := (s₁.run during).get (by decide +kernel)
  let t : System := (s₂.run late).get (by decide +kernel)
  let u : System := (t.fire (.stop 2 .enter)).get (by decide +kernel)
  have h : s₀.Reachable := ⟨begun, (Option.some_get _).symm⟩
  have hstart : s₀.fire (.call 2 .enter) = some s₁ := (Option.some_get _).symm
  have hopening : s₁.stage 2 = .opening 3 := by decide +kernel
  have hduring : s₁.run during = some s₂ := (Option.some_get _).symm
  have hrun : s₂.run late = some t := (Option.some_get _).symm
  have hstop : t.fire (.stop 2 .enter) = some u := (Option.some_get _).symm
  have hpump : s₀.stage 0 ≠ .outside := by decide +kernel
  have hcall : s₀.stage 1 ≠ .outside := by decide +kernel
  have hshare : s₀.stops[1]? = some (.joining 2 (some none)) := by decide +kernel
  have hearlier : ∀ m ∈ late, s₀.Earlier m := by
    simp only [late, List.mem_cons, List.not_mem_nil, or_false]
    rintro m (rfl | rfl | rfl | rfl)
    · exact hpump
    · exact hcall
    · exact ⟨_, hshare, nofun⟩
    · exact ⟨_, hshare, nofun⟩
  obtain ⟨-, hlate⟩ := latecomers_harmless h hstart hopening hduring
  obtain ⟨hcontroller, hcancelled⟩ := hlate late t hearlier hrun
  have hduring' : s₁.run (during ++ late) = some t := by rw [run_append_of hduring, hrun]
  obtain ⟨hsteps, -⟩ := latecomers_harmless h hstart hopening hduring'
  have hholds : t.controller.Holds 3 := by
    constructor
    · decide +kernel
    · exact .inr (by decide +kernel)
  have hover : ¬ u.controller.Holds 3 := by
    rintro ⟨-, hp⟩
    revert hp
    decide +kernel
  exact ⟨s₀, s₁, s₂, t, u, h, hstart, hopening, hrun, hcontroller, hcancelled, hholds, hstop,
    hover, (hsteps _ u hstop).1 hholds hover⟩

end System

end LiveTree.Watch
