import LiveTree.Proofs.Watch.Coherence

namespace LiveTree.Watch

def Stage.running? : Stage → Option Nat
  | .active g | .retiring g => some g
  | .outside | .opening _ | .settled _ | .refused => none

theorem Stage.running?_eq_some {a : Stage} {g : Nat} :
    a.running? = some g ↔ a = .active g ∨ a = .retiring g := by
  cases a <;> simp [running?]

namespace System

def NoneRunning (s : System) : Prop :=
  ∀ n, (s.stage n).running? = none

/-- What a system knows of its retiring pumps, beyond its coherence. -/
structure Retained (s : System) : Prop where
  kept : ∀ n g, s.stage n = .retiring g → s.Keeps n g
  leaving : ∀ k g : Nat, s.stops[k]? = some (StopPoint.leaving g) → s.Awaits g s.NoneRunning

theorem retained_new : new.Retained := by
  have hs (n : Nat) : new.stage n = .outside := rfl
  have hk (k : Nat) : new.stops[k]? = none := rfl
  refine ⟨?_, ?_⟩ <;> simp [hs, hk]

theorem Retained.keeps {s : System} (h : s.Retained) (hs : s.Coherent) {n g : Nat}
    (hn : (s.stage n).running? = some g) : s.Keeps n g := by
  obtain hn | hn := Stage.running?_eq_some.1 hn
  · exact hs.driven n g hn
  · exact h.kept n g hn

theorem Turn.noneRunning {s t : System} (ht : s.Turn t) (h : s.NoneRunning)
    (hp : s.phase ≠ .starting) : t.NoneRunning := by
  intro n
  have hn := h n
  obtain hs | he := ht.stage_cases n
  · rwa [hs]
  · generalize s.stage n = a at he hn
    generalize t.stage n = b at he
    cases he with
    | stay => exact hn
    | refuse | enter | settle | overtaken | abandon | retire => rfl
    | establish _ hc => exact absurd (Controller.establish?_eq_some hc).2.1 hp
    | mark | exhaust => simp [Stage.running?] at hn

theorem Retained.noneRunning_of_join {s : System} (h : s.Retained) (hs : s.Coherent)
    {j : Option Join} (hp : s.phase = .stopping) (hj : j = s.controller.stopping)
    (hended : (StopMove.awaited? j).all s.hasEnded = true) : s.NoneRunning := by
  intro n
  cases hn : (s.stage n).running? with
  | none => rfl
  | some g =>
      obtain ⟨e, he⟩ := (h.keeps hs hn).settled_of_join hp hj hended
      simp [he, Stage.running?] at hn

theorem Retained.kept_turn {s t : System} (h : s.Retained) (hs : s.Coherent) (ht : s.Turn t)
    {k g : Nat} (hk : t.stage k = .retiring g) : t.Keeps k g := by
  have ht' := ht
  cases ht with
  | arrive hc hn | release hc hn =>
      rw [hn] at hk
      rw [Keeps, hc]
      exact h.kept k g hk
  | stop i p q cancelled hp he hn =>
      rw [hn] at hk
      refine (h.kept k g hk).stop ht' he ?_
      rintro rfl
      obtain hidle | ⟨-, hnone⟩ := (h.leaving i _ hp).2 rfl
      · exact (h.kept k g hk).phase_ne.1 hidle
      · have hrunning := hnone k
        rw [hk] at hrunning
        exact nomatch hrunning
  | call n he hn =>
      by_cases hne : k = n
      · subst hne
        rw [hk] at he
        generalize ha : s.stage k = a at he
        -- the pump was retiring before, or has just come to its end
        cases he with
        | stay _ hc =>
            rw [Keeps, hc]
            exact h.kept k g ha
        | exhaust _ hc =>
            rw [Keeps, hc]
            exact hs.driven k g ha
      · rw [hn k hne] at hk
        refine (h.kept k g hk).call hs.numbered ht' ?_ hne he
        rw [hk]
        rfl

theorem Retained.turn {s t : System} (h : s.Retained) (hs : s.Coherent) (ht : s.Turn t) :
    t.Retained := by
  have hleaving {g : Nat} (hl : s.Awaits g s.NoneRunning) : t.Awaits g t.NoneRunning :=
    hl.turn ht fun hn hp _ _ => ht.noneRunning hn (by simp [hp])
  refine ⟨fun k g hk => h.kept_turn hs ht hk, ?_⟩
  intro k g hk
  obtain hk | hk | ⟨p, cancelled, hp, he⟩ := ht.stops hk
  · exact hleaving (h.leaving k g hk)
  · simp at hk
  · cases he with
    | join _ j hj =>
        obtain ⟨hle, hg⟩ := hs.joining k g j hp
        refine hleaving ⟨hle, fun he => (hg he).imp_right ?_⟩
        rintro ⟨hstop, hjoin⟩
        exact ⟨hstop, h.noneRunning_of_join hs hstop hjoin hj⟩

theorem Reachable.retained {s : System} (h : s.Reachable) : s.Retained := by
  let P (s : System) : Prop := s.Coherent ∧ s.Retained
  suffices hs : P s from hs.2
  refine h.induction ⟨coherent_new, retained_new⟩ ?_
  rintro s t m ⟨hcoherent, hretained⟩ hm
  have ht := fire_turn hm
  exact ⟨hcoherent.turn ht, hretained.turn hcoherent ht⟩

end System

end LiveTree.Watch
