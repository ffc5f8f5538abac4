import LiveTree.Proofs.Watch.Turns

namespace LiveTree.Watch

def Stage.pump? : Stage → Option Nat
  | .active g | .retiring g | .settled g => some g
  | .outside | .opening _ | .refused => none

theorem Stage.generation?_of_pump? {a : Stage} {g : Nat} (h : a.pump? = some g) :
    a.generation? = some g := by
  cases a <;> simp_all [pump?, generation?]

namespace Call

theorem Effect.generation? {number : Nat} {s t : Controller} {a b : Stage}
    (h : Effect number s t a b) {g : Nat} (hg : b.generation? = some g) :
    a.generation? = some g ∨ g = s.generation + 1 ∧ t.generation = s.generation + 1 := by
  cases h with
  | enter hs =>
      obtain ⟨-, rfl⟩ := Controller.begin?_eq_some hs
      exact .inr ⟨(Option.some.inj hg).symm, rfl⟩
  | stay | establish | mark | exhaust | retire => exact .inl hg
  | refuse | settle | overtaken | abandon => simp [Stage.generation?] at hg

theorem Effect.pump? {number : Nat} {s t : Controller} {a b : Stage}
    (h : Effect number s t a b) {g : Nat} (hg : a.pump? = some g) : b.pump? = some g := by
  cases h with
  | stay | mark | exhaust | retire => exact hg
  | refuse | enter | settle | overtaken | establish | abandon => simp [Stage.pump?] at hg

end Call

namespace System

theorem Turn.pump? {s t : System} (h : s.Turn t) {n g : Nat} (hg : (s.stage n).pump? = some g) :
    (t.stage n).pump? = some g := by
  obtain hs | he := h.stage_cases n
  · rwa [hs]
  · exact he.pump? hg

/-- A generation that a call has is not new, or the controller has just given it out. -/
theorem Turn.generation? {s t : System} (h : s.Turn t) {n g : Nat}
    (hg : (t.stage n).generation? = some g) :
    (s.stage n).generation? = some g ∨
      g = s.controller.generation + 1 ∧ t.controller.generation = s.controller.generation + 1 ∧
        ∀ k, k ≠ n → t.stage k = s.stage k := by
  cases h with
  | arrive _ hn | stop _ _ _ _ _ _ hn | release _ hn => exact .inl (hn n ▸ hg)
  | call k he hn =>
      by_cases hk : n = k
      · subst hk
        exact (he.generation? hg).imp_right fun ⟨h₁, h₂⟩ => ⟨h₁, h₂, hn⟩
      · exact .inl (hn n hk ▸ hg)

/-- Calls are told apart by their generations, all of which were given out already. -/
structure Numbered (s : System) : Prop where
  bounded : ∀ n g, (s.stage n).generation? = some g → g ≤ s.controller.generation
  distinct : ∀ n k g, (s.stage n).generation? = some g → (s.stage k).generation? = some g → n = k

theorem Numbered.turn {s t : System} (h : s.Numbered) (ht : s.Turn t) : t.Numbered := by
  have hle := ht.shift.generation_le
  constructor
  · intro n g hn
    obtain hn | ⟨rfl, hg, -⟩ := ht.generation? hn
    · exact Nat.le_trans (h.bounded n g hn) hle
    · exact Nat.le_of_eq hg.symm
  · intro n k g hn hk
    by_cases he : n = k
    · exact he
    · -- a generation that is new belongs to the one call that moved
      obtain hn' | ⟨rfl, -, hs⟩ := ht.generation? hn
      · obtain hk' | ⟨rfl, -, -⟩ := ht.generation? hk
        · exact h.distinct n k g hn' hk'
        · exact absurd (h.bounded n _ hn') (Nat.not_succ_le_self _)
      · rw [hs k (Ne.symm he)] at hk
        exact absurd (h.bounded k _ hk) (Nat.not_succ_le_self _)

/-- The controller keeps the pump of a call, and the generation of that pump is the current one. -/
def Keeps (s : System) (n g : Nat) : Prop :=
  g = s.controller.generation ∧ s.controller.Drives n

theorem Keeps.phase_ne {s : System} {n g : Nat} (h : s.Keeps n g) :
    s.phase ≠ .idle ∧ s.phase ≠ .starting := by
  obtain hp | hp | hp := h.2.phase <;> simp [phase, hp]

theorem Keeps.turn {s t : System} {n g : Nat} (h : s.Keeps n g) (ht : s.Turn t)
    (hp : t.phase ≠ .idle) : t.Keeps n g := by
  obtain ⟨hg, hd⟩ := h
  obtain hr | ⟨hg', hd'⟩ := ht.shift.drives hd
  · exact absurd (congrArg Controller.phase hr) hp
  · exact ⟨hg.trans hg'.symm, hd'⟩

theorem Keeps.call {s t : System} {n k g : Nat} {b : Stage} (h : s.Keeps k g) (hs : s.Numbered)
    (ht : s.Turn t) (hk : (s.stage k).generation? = some g) (hne : k ≠ n)
    (he : Call.Effect n s.controller t.controller (s.stage n) b) : t.Keeps k g := by
  apply h.turn ht
  obtain ⟨hidle, hstarting⟩ := h.phase_ne
  have hsettle {e : Nat} (he : (s.stage n).generation? = some e) :
      s.controller.settle e = s.controller := by
    obtain hs' | ⟨-, rfl, -⟩ := s.controller.settle_cases e
    · exact hs'
    · exact absurd (hs.distinct k n g hk (h.1 ▸ he)) hne
  generalize ha : s.stage n = a at he hsettle
  rw [phase]
  cases he with
  | stay _ hc | refuse hc | overtaken _ _ hc | abandon _ hc | exhaust _ hc => rwa [hc]
  | enter hc => exact absurd (Controller.begin?_eq_some hc).1 hidle
  | establish _ hc => exact absurd (Controller.establish?_eq_some hc).2.1 hstarting
  | settle e hc | retire e hc => rwa [hc, hsettle rfl]
  | mark _ hc =>
      rw [hc]
      exact Controller.phase_markFailed hidle _

theorem Keeps.stop {s t : System} {k g : Nat} {p q : StopPoint} {cancelled : Option Nat}
    (h : s.Keeps k g) (ht : s.Turn t)
    (he : StopMove.Effect s.hasEnded s.controller t.controller p cancelled q)
    (hp : p ≠ .leaving s.controller.generation) : t.Keeps k g := by
  apply h.turn ht
  rw [phase]
  cases he with
  | already _ hc | share _ hc | join _ _ _ hc | abandon _ _ hc =>
      rw [hc]
      exact h.phase_ne.1
  | take _ _ hc => simp [hc]
  | leave e hc =>
      obtain hs | ⟨-, rfl, -⟩ := s.controller.finishStop_cases e
      · rw [hc, hs]
        exact h.phase_ne.1
      · exact absurd rfl hp

/-- What a stop that waits for a generation knows while that generation is current. -/
def Awaits (s : System) (g : Nat) (P : Prop) : Prop :=
  g ≤ s.controller.generation ∧
    (g = s.controller.generation → s.phase = .idle ∨ s.phase = .stopping ∧ P)

def NoneActive (s : System) : Prop :=
  ∀ n g, s.stage n ≠ .active g

structure Coherent (s : System) : Prop where
  numbered : s.Numbered
  driven : ∀ n g, s.stage n = .active g → g = s.controller.generation ∧ s.controller.Drives n
  joining : ∀ (k g : Nat) (j : Option Join), s.stops[k]? = some (StopPoint.joining g j) →
    s.Awaits g (j = s.controller.stopping)
  leaving : ∀ k g : Nat, s.stops[k]? = some (StopPoint.leaving g) → s.Awaits g s.NoneActive

theorem coherent_new : new.Coherent := by
  have hs (n : Nat) : new.stage n = .outside := rfl
  have hk (k : Nat) : new.stops[k]? = none := rfl
  refine ⟨⟨?_, ?_⟩, ?_, ?_, ?_⟩ <;> simp [hs, hk, Stage.generation?]

theorem Coherent.noneActive {s : System} (h : s.Coherent) (hp : s.phase = .idle ∨ s.phase = .starting) :
    s.NoneActive := by
  intro n g hn
  obtain hd | hd | hd := (h.driven n g hn).2.phase <;> rw [phase, hd] at hp <;> simp at hp

theorem Coherent.active_unique {s : System} (h : s.Coherent) {n k g e : Nat}
    (hn : s.stage n = .active g) (hk : s.stage k = .active e) : n = k :=
  (h.driven n g hn).2.unique (h.driven k e hk).2

theorem Coherent.phase_ne {s : System} (h : s.Coherent) {n g : Nat} (hn : s.stage n = .active g) :
    s.phase ≠ .idle := fun hp => h.noneActive (.inl hp) n g hn

theorem Coherent.driven_self {s t : System} (h : s.Coherent) (ht : s.Turn t) {k g : Nat}
    (he : Call.Effect k s.controller t.controller (s.stage k) (.active g)) :
    g = t.controller.generation ∧ t.controller.Drives k := by
  generalize ha : s.stage k = a at he
  cases he with
  | stay _ hs =>
      rw [hs]
      exact h.driven k g ha
  | establish _ hs =>
      obtain ⟨hg, -, hc⟩ := Controller.establish?_eq_some hs
      rw [hc]
      exact ⟨hg.symm, rfl⟩
  | mark _ hs =>
      refine Keeps.turn (h.driven k g ha) ht ?_
      rw [phase, hs]
      exact Controller.phase_markFailed (h.phase_ne ha) _

theorem Coherent.driven_stop {s t : System} (h : s.Coherent) (ht : s.Turn t) {i k g : Nat}
    {p q : StopPoint} {cancelled : Option Nat} (hp : s.stops[i]? = some p)
    (he : StopMove.Effect s.hasEnded s.controller t.controller p cancelled q)
    (hk : s.stage k = .active g) : g = t.controller.generation ∧ t.controller.Drives k := by
  refine Keeps.stop (h.driven k g hk) ht he ?_
  rintro rfl
  -- a stop that is about to reset the controller knows that no pump is active any more
  obtain hidle | ⟨-, hnone⟩ := (h.leaving i _ hp).2 rfl
  · exact h.phase_ne hk hidle
  · exact hnone k g hk

theorem Coherent.driven_turn {s t : System} (h : s.Coherent) (ht : s.Turn t) {k g : Nat}
    (hk : t.stage k = .active g) : g = t.controller.generation ∧ t.controller.Drives k := by
  have ht' := ht
  cases ht with
  | arrive hc hn =>
      rw [hn] at hk
      rw [hc]
      exact h.driven k g hk
  | release hc hn =>
      rw [hn] at hk
      rw [hc]
      exact h.driven k g hk
  | stop i p q cancelled hp he hn =>
      rw [hn] at hk
      exact h.driven_stop ht' hp he hk
  | call n he hn =>
      by_cases hne : k = n
      · subst hne
        rw [hk] at he
        exact h.driven_self ht' he
      · rw [hn k hne] at hk
        have hg : (s.stage k).generation? = some g := by
          rw [hk]
          rfl
        exact Keeps.call (h.driven k g hk) h.numbered ht' hg hne he

theorem Awaits.turn {s t : System} {g : Nat} {P Q : Prop} (h : s.Awaits g P) (ht : s.Turn t)
    (hPQ : P → s.phase = .stopping → t.phase = .stopping →
      t.controller.stopping = s.controller.stopping → Q) :
    t.Awaits g Q := by
  obtain ⟨hle, hg⟩ := h
  refine ⟨Nat.le_trans hle ht.shift.generation_le, ?_⟩
  intro he
  have hgs : g = s.controller.generation :=
    Nat.le_antisymm hle (he ▸ ht.shift.generation_le)
  obtain hidle | ⟨hstop, hP⟩ := hg hgs
  · obtain hp | ⟨-, hnew⟩ := ht.shift.idle hidle
    · exact .inl hp
    · omega
  · obtain hidle | ⟨hp, -, hs⟩ := ht.shift.stopping hstop
    · exact .inl hidle
    · exact .inr ⟨hp, hPQ hP hstop hp hs⟩

theorem Turn.noneActive {s t : System} (ht : s.Turn t) (h : s.NoneActive)
    (hp : s.phase ≠ .starting) : t.NoneActive := by
  intro n g hn
  obtain hs | he := ht.stage_cases n
  · exact h n g (hs ▸ hn)
  · rw [hn] at he
    generalize ha : s.stage n = a at he
    cases he with
    | stay | mark => exact h n g ha
    | establish _ hs => exact hp (Controller.establish?_eq_some hs).2.1

theorem settled_of_hasEnded {s : System} {n : Nat} (h : s.hasEnded n = true) :
    ∃ g, s.stage n = .settled g := by
  rw [hasEnded] at h
  cases hc : s.calls[n]? with
  | none => simp [hc] at h
  | some c =>
      rw [stage_of_getElem? hc]
      obtain ⟨replicating, channel, point⟩ := c
      cases point with
      | pumping p =>
          obtain ⟨g, source, replica, point⟩ := p
          cases point <;> simp [hc, Call.hasEndedPump, Pump.isEnded] at h
          exact ⟨g, rfl⟩
      | _ => simp [hc, Call.hasEndedPump] at h

/-- A pump that the controller keeps while it is stopping is the one that all stops wait for. -/
theorem Keeps.settled_of_join {s : System} {n g : Nat} {j : Option Join} (h : s.Keeps n g)
    (hp : s.phase = .stopping) (hj : j = s.controller.stopping)
    (hended : (StopMove.awaited? j).all s.hasEnded = true) : ∃ e, s.stage n = .settled e := by
  have hd := h.2
  rw [Controller.Drives, show s.controller.phase = .stopping from hp] at hd
  rw [hj, hd] at hended
  exact settled_of_hasEnded hended

theorem Coherent.noneActive_of_join {s : System} (h : s.Coherent) {j : Option Join}
    (hp : s.phase = .stopping) (hj : j = s.controller.stopping)
    (hended : (StopMove.awaited? j).all s.hasEnded = true) : s.NoneActive := by
  intro n g hn
  obtain ⟨e, he⟩ := Keeps.settled_of_join (h.driven n g hn) hp hj hended
  simp [hn] at he

theorem Coherent.turn {s t : System} (h : s.Coherent) (ht : s.Turn t) : t.Coherent := by
  have hjoining {g : Nat} {j : Option Join} (hj : s.Awaits g (j = s.controller.stopping)) :
      t.Awaits g (j = t.controller.stopping) :=
    hj.turn ht fun hj _ _ hs => hj.trans hs.symm
  have hleaving {g : Nat} (hl : s.Awaits g s.NoneActive) : t.Awaits g t.NoneActive :=
    hl.turn ht fun hn hp _ _ => ht.noneActive hn (by simp [hp])
  refine ⟨h.numbered.turn ht, fun n g hn => h.driven_turn ht hn, ?_, ?_⟩
  · intro k g j hk
    obtain hk | hk | ⟨p, cancelled, hp, he⟩ := ht.stops hk
    · exact hjoining (h.joining k g j hk)
    · simp at hk
    · cases he with
      | share hs hc =>
          refine ⟨Nat.le_refl _, fun _ => .inr ⟨?_, rfl⟩⟩
          rw [phase, hc, hs]
      | take hi hs hc =>
          refine ⟨Nat.le_refl _, fun _ => .inr ⟨?_, rfl⟩⟩
          rw [phase, hc]
  · intro k g hk
    obtain hk | hk | ⟨p, cancelled, hp, he⟩ := ht.stops hk
    · exact hleaving (h.leaving k g hk)
    · simp at hk
    · cases he with
      | join _ j hj =>
          obtain ⟨hle, hg⟩ := h.joining k g j hp
          refine hleaving ⟨hle, fun he => (hg he).imp_right ?_⟩
          rintro ⟨hs, hjoin⟩
          exact ⟨hs, h.noneActive_of_join hs hjoin hj⟩

theorem Coherent.run {s t : System} {moves : List Move} (h : s.Coherent)
    (hr : s.run moves = some t) : t.Coherent :=
  run_keeps (fun ht hs => hs.turn ht) hr h

theorem Reachable.coherent {s : System} (h : s.Reachable) : s.Coherent := by
  obtain ⟨moves, hr⟩ := h
  exact coherent_new.run hr

end System

end LiveTree.Watch
