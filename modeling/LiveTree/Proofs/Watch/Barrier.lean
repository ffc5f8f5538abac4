import LiveTree.Proofs.Watch.Log

namespace LiveTree.Watch

def StopPoint.WaitsFor (g : Nat) : StopPoint → Prop
  | .joining e _ | .leaving e => e = g
  | .abandoned => True
  | .entering | .returned => False

namespace System

/-- A stop has found a watch to stop, and nobody has reset the controller since. -/
structure Pending (s : System) (k : Nat) : Prop where
  phase : s.phase = .stopping
  waits : ∃ p, s.stops[k]? = some p ∧ p.WaitsFor s.controller.generation

theorem Turn.pending {s t : System} (ht : s.Turn t) {k : Nat} (h : s.Pending k) :
    t.phase = .idle ∨ t.Pending k := by
  obtain ⟨hs, p, hp, hw⟩ := h
  obtain hi | ⟨hphase, hg, -⟩ := ht.shift.stopping hs
  · exact .inl hi
  · obtain hq | ⟨q, cancelled, hq, he⟩ := ht.stops_of hp
    · exact .inr ⟨hphase, p, hq, hg ▸ hw⟩
    · cases he with
      | already | share | take => exact hw.elim
      | join g j => exact .inr ⟨hphase, _, hq, hg ▸ hw⟩
      | abandon g j => exact .inr ⟨hphase, _, hq, trivial⟩
      | leave g he =>
          -- the controller is still that of the watch, so this stop resets it
          obtain rfl : g = s.controller.generation := hw
          have hr : t.controller = s.controller.reset := by
            rw [he, Controller.finishStop, if_pos ⟨rfl, hs⟩]
          exact .inl (congrArg Controller.phase hr)

theorem Pending.idle_before_return {s t : System} {k : Nat} {moves : List Move} (h : s.Pending k)
    (hr : s.run moves = some t) (ht : t.stops[k]? = some .returned) :
    ∃ before rest u, moves = before ++ rest ∧ s.run before = some u ∧ u.phase = .idle := by
  induction moves generalizing s with
  | nil =>
      obtain rfl := Option.some.inj hr
      obtain ⟨p, hp, hw⟩ := h.waits
      obtain rfl := Option.some.inj (ht.symm.trans hp)
      exact hw.elim
  | cons m moves ih =>
      obtain ⟨v, hv, hr⟩ := run_cons.1 hr
      obtain hi | hpending := (fire_turn hv).pending h
      · exact ⟨[m], moves, v, rfl, run_cons.2 ⟨v, hv, rfl⟩, hi⟩
      · obtain ⟨before, rest, u, rfl, hu, hi⟩ := ih hpending hr
        exact ⟨m :: before, rest, u, rfl, run_cons.2 ⟨v, hv, hu⟩, hi⟩

theorem idle_or_pending {s t : System} {k : Nat} (h : s.fire (.stop k .enter) = some t) :
    t.phase = .idle ∨ t.Pending k := by
  obtain ⟨p, cancelled, q, hp, hf, ht⟩ := fireStop_cases h
  have hq : t.stops[k]? = some q := by
    rw [ht]
    exact List.getElem?_set_self (List.getElem?_eq_some_iff.1 hp).1
  cases p with
  | entering =>
      cases StopMove.fire_effect hf with
      | already hi hs => exact .inl ((congrArg Controller.phase hs).trans hi)
      | share hs hc => exact .inr ⟨(congrArg Controller.phase hc).trans hs, _, hq, rfl⟩
      | take hi hs hc => exact .inr ⟨congrArg Controller.phase hc, _, hq, rfl⟩
  | joining | leaving | returned | abandoned => simp [StopMove.fire] at hf

def Over (s : System) (n : Nat) : Prop :=
  match s.stage n with
  | .opening g => g = s.controller.generation → s.phase ≠ .starting
  | .retiring _ | .settled _ | .refused => True
  | .outside | .active _ => False

theorem Coherent.over_of_idle {s : System} (h : s.Coherent) (hi : s.phase = .idle) {n : Nat}
    (hn : s.stage n ≠ .outside) : s.Over n := by
  rw [Over]
  cases hs : s.stage n with
  | outside => exact hn hs
  | opening g => simp [hi]
  | active g => exact h.noneActive (.inl hi) n g hs
  | retiring | settled | refused => trivial

/-- A watch that is over stays so, since the controller begins every watch with a new generation. -/
theorem Over.turn {s t : System} {n : Nat} (h : s.Over n) (hs : s.Numbered) (ht : s.Turn t) :
    t.Over n := by
  have hopening {g : Nat} (hg : s.stage n = .opening g) :
      g = t.controller.generation → t.phase ≠ .starting := by
    intro he hp
    have hle : g ≤ s.controller.generation := by
      apply hs.bounded n
      rw [hg]
      rfl
    rw [Over, hg] at h
    obtain ⟨hp, hg'⟩ | hg' := ht.shift.starting hp
    · exact h (he.trans hg') hp
    · omega
  have hkeep (hn : t.stage n = s.stage n) : t.Over n := by
    rw [Over, hn]
    cases hg : s.stage n with
    | opening g => exact hopening hg
    | retiring | settled | refused => trivial
    | outside | active => simp [Over, hg] at h
  obtain hn | he := ht.stage_cases n
  · exact hkeep hn
  · generalize ha : s.stage n = a at he
    generalize hb : t.stage n = b at he
    cases he with
    | stay => exact hkeep (hb.trans ha.symm)
    | refuse | settle | overtaken | abandon | retire => simp [Over, hb]
    | enter | mark | exhaust => simp [Over, ha] at h
    | establish g hs =>
        obtain ⟨hg, hp, -⟩ := Controller.establish?_eq_some hs
        rw [Over, ha] at h
        exact absurd hp (h hg.symm)

theorem Over.sent_fire {s t : System} {n : Nat} (h : s.Over n) (hs : s.Coherent) {m : Move}
    (hm : s.fire m = some t) : t.sent n = s.sent n := by
  rw [System.sent_fire hm]
  cases he : s.logged? m with
  | none => exact List.append_nil _
  | some e =>
      have hne : e.number ≠ n := by
        rintro rfl
        rw [Over, (hs.entry he).1] at h
        exact h
      simp [sentIn, hne]

theorem Over.run {s t : System} {n : Nat} {moves : List Move} (h : s.Over n) (hs : s.Coherent)
    (hr : s.run moves = some t) : t.sent n = s.sent n := by
  induction moves generalizing s with
  | nil =>
      obtain rfl := Option.some.inj hr
      rfl
  | cons m moves ih =>
      obtain ⟨u, hu, hr⟩ := run_cons.1 hr
      have hturn := fire_turn hu
      rw [ih (h.turn hs.numbered hturn) (hs.turn hturn) hr, h.sent_fire hs hu]

theorem Turn.begun {s t : System} (ht : s.Turn t) {n : Nat} (h : s.stage n ≠ .outside) :
    t.stage n ≠ .outside := by
  obtain hs | he := ht.stage_cases n
  · rwa [hs]
  · generalize t.stage n = b at he
    generalize s.stage n = a at he h
    cases he with
    | stay => exact h
    | refuse | enter | settle | overtaken | establish | abandon | mark | exhaust | retire => simp

theorem begun_run {s t : System} {moves : List Move} (hr : s.run moves = some t) {n : Nat}
    (h : s.stage n ≠ .outside) : t.stage n ≠ .outside :=
  run_keeps (P := fun u => u.stage n ≠ .outside) (fun ht hs => ht.begun hs) hr h

/-- Every run from the first section of a stop to its return, and so the shortest, passes a moment
at which the controller is idle; and whatever happens afterwards, no watch begun before that section
sends anything more. -/
theorem stop_barrier {s₁ s₂ s₃ s₄ : System} {k : Nat} {during after : List Move}
    (h : s₁.Reachable) (hstop : s₁.fire (.stop k .enter) = some s₂)
    (hduring : s₂.run during = some s₃) (hreturned : s₃.stops[k]? = some .returned)
    (hafter : s₃.run after = some s₄) :
    (∃ before rest u, during = before ++ rest ∧ s₂.run before = some u ∧ u.phase = .idle) ∧
      ∀ n, s₁.stage n ≠ .outside → s₄.sent n = s₃.sent n := by
  have hidle : ∃ before rest u, during = before ++ rest ∧ s₂.run before = some u ∧
      u.phase = .idle := by
    obtain hi | hpending := idle_or_pending hstop
    · exact ⟨[], during, s₂, rfl, rfl, hi⟩
    · exact hpending.idle_before_return hduring hreturned
  refine ⟨hidle, ?_⟩
  intro n hn
  obtain ⟨before, rest, u, rfl, hu, hi⟩ := hidle
  rw [run_append_of hu] at hduring
  have hcoherent : u.Coherent := (h.coherent.turn (fire_turn hstop)).run hu
  have hbegun : u.stage n ≠ .outside := begun_run hu ((fire_turn hstop).begun hn)
  have hover : u.Over n := hcoherent.over_of_idle hi hbegun
  have hrest : u.run (rest ++ after) = some s₄ := by
    rw [run_append_of hduring, hafter]
  rw [hover.run hcoherent hrest, hover.run hcoherent hduring]

/-- A stop takes over a watch that is about to report a failure, and another watch is begun as soon
as it has returned. -/
theorem stop_barrier_failing : ∃ s₁ s₂ s₃ s₄ : System, s₁.Reachable ∧
    s₁.fire (.stop 0 .enter) = some s₂ ∧ s₃.stops[0]? = some .returned ∧
      s₁.stage 0 = .active 1 ∧ s₄.stage 1 = .opening 2 ∧ s₄.sent 0 = s₃.sent 0 := by
  let body : List UInt8 := Text.Utf8.encode "event: cancel\n\n".toList
  let watch : List Move := [.openCall none true, .call 0 .enter, .call 0 .issue,
    .call 0 (.answer (.ok ⟨200, [body], .held, .utf8⟩)), .call 0 .establish, .call 0 .poll, .openStop]
  let during : List Move :=
    [.call 0 .mark, .call 0 .look, .call 0 .retire, .call 0 .close, .stop 0 .join, .stop 0 .leave]
  let after : List Move := [.openCall (some 1) false, .call 1 .enter]
  let s₁ : System := (new.run watch).get (by decide +kernel)
  let s₂ : System := (s₁.fire (.stop 0 .enter)).get (by decide +kernel)
  let s₃ : System := (s₂.run during).get (by decide +kernel)
  let s₄ : System := (s₃.run after).get (by decide +kernel)
  have h : s₁.Reachable := ⟨watch, (Option.some_get _).symm⟩
  have hstop : s₁.fire (.stop 0 .enter) = some s₂ := (Option.some_get _).symm
  have hduring : s₂.run during = some s₃ := (Option.some_get _).symm
  have hreturned : s₃.stops[0]? = some .returned := by decide +kernel
  have hafter : s₃.run after = some s₄ := (Option.some_get _).symm
  have hactive : s₁.stage 0 = .active 1 := by decide +kernel
  have hbegun : s₄.stage 1 = .opening 2 := by decide +kernel
  obtain ⟨-, hsent⟩ := stop_barrier h hstop hduring hreturned hafter
  exact ⟨s₁, s₂, s₃, s₄, h, hstop, hreturned, hactive, hbegun, hsent 0 (by simp [hactive])⟩

end System

end LiveTree.Watch
