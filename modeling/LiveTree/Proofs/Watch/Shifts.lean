import LiveTree.Watch.Controller

namespace LiveTree.Watch.Controller

inductive Shift (s : Controller) : Controller → Prop
  | same : Shift s s
  | claim (call : Nat) (h : s.phase = .idle) :
      Shift s { s with phase := .starting, generation := s.generation + 1, cancel := some call }
  | stream (call : Nat) (h : s.phase = .starting) :
      Shift s { s with phase := .streaming, worker := some call }
  | fail (h : s.phase = .streaming) : Shift s { s with phase := .failed }
  | stop (h : s.phase ≠ .idle) (h' : s.phase ≠ .stopping) :
      Shift s
        { s with phase := .stopping, cancel := none, worker := none, stopping := some s.worker }
  | reset (h : s.phase ≠ .idle) : Shift s s.reset
  | release : Shift s { s with cancel := none }

theorem begin?_eq_some {s t : Controller} {call : Nat} (h : s.begin? call = some t) :
    s.phase = .idle ∧
      t = { s with phase := .starting, generation := s.generation + 1, cancel := some call } := by
  rw [begin?] at h
  split at h
  · next hp => exact ⟨hp, (Option.some.inj h).symm⟩
  · simp at h

theorem establish?_eq_some {s t : Controller} {g call : Nat} (h : s.establish? g call = some t) :
    s.generation = g ∧ s.phase = .starting ∧
      t = { s with phase := .streaming, worker := some call } := by
  rw [establish?] at h
  split at h
  · next hp => exact ⟨hp.1, hp.2, (Option.some.inj h).symm⟩
  · simp at h

theorem settle_cases (s : Controller) (g : Nat) :
    s.settle g = s ∨
      s.settle g = s.reset ∧ s.generation = g ∧ s.phase ≠ .idle ∧ s.phase ≠ .stopping := by
  rw [settle]
  split
  · next hg => cases hp : s.phase <;> simp [hg]
  · exact .inl rfl

theorem markFailed_cases (s : Controller) (g : Nat) :
    s.markFailed g = s ∨
      s.markFailed g = { s with phase := .failed } ∧ s.generation = g ∧ s.phase = .streaming := by
  rw [markFailed]
  split
  · next h => exact .inr ⟨rfl, h⟩
  · exact .inl rfl

theorem phase_markFailed {s : Controller} (h : s.phase ≠ .idle) (g : Nat) :
    (s.markFailed g).phase ≠ .idle := by
  obtain hs | ⟨hs, -⟩ := s.markFailed_cases g
  · rwa [hs]
  · simp [hs]

theorem finishStop_cases (s : Controller) (g : Nat) :
    s.finishStop g = s ∨
      s.finishStop g = s.reset ∧ s.generation = g ∧ s.phase = .stopping := by
  rw [finishStop]
  split
  · next h => exact .inr ⟨rfl, h⟩
  · exact .inl rfl

theorem beginStop_cases (s : Controller) :
    s.phase = .idle ∧ s.beginStop = (.already, none, s) ∨
      s.phase = .stopping ∧ s.beginStop = (.joining s.generation s.stopping, none, s) ∨
      s.phase ≠ .idle ∧ s.phase ≠ .stopping ∧
        s.beginStop = (.joining s.generation (some s.worker), s.cancel,
          { s with phase := .stopping, cancel := none, worker := none,
                   stopping := some s.worker }) := by
  rw [beginStop]
  cases hp : s.phase <;> simp

theorem shift_settle (s : Controller) (g : Nat) : s.Shift (s.settle g) := by
  obtain h | ⟨h, -, hp, -⟩ := s.settle_cases g
  · rw [h]
    exact .same
  · rw [h]
    exact .reset hp

theorem shift_markFailed (s : Controller) (g : Nat) : s.Shift (s.markFailed g) := by
  obtain h | ⟨h, -, hp⟩ := s.markFailed_cases g
  · rw [h]
    exact .same
  · rw [h]
    exact .fail hp

theorem shift_finishStop (s : Controller) (g : Nat) : s.Shift (s.finishStop g) := by
  obtain h | ⟨h, -, hp⟩ := s.finishStop_cases g
  · rw [h]
    exact .same
  · rw [h]
    exact .reset (by simp [hp])

theorem Shift.generation_le {s t : Controller} (h : s.Shift t) : s.generation ≤ t.generation := by
  cases h with
  | claim => exact Nat.le_succ _
  | same | stream | fail | stop | reset | release => exact Nat.le_refl _

theorem Shift.starting {s t : Controller} (h : s.Shift t) (ht : t.phase = .starting) :
    s.phase = .starting ∧ t.generation = s.generation ∨ t.generation = s.generation + 1 := by
  cases h with
  | same | release => exact .inl ⟨ht, rfl⟩
  | claim => exact .inr rfl
  | stream | fail | stop | reset => cases ht

theorem Shift.idle {s t : Controller} (h : s.Shift t) (hs : s.phase = .idle) :
    t.phase = .idle ∨ t.phase = .starting ∧ t.generation = s.generation + 1 := by
  cases h with
  | same | release => exact .inl hs
  | claim => exact .inr ⟨rfl, rfl⟩
  | stream call hp | fail hp => simp [hs] at hp
  | stop hi hn => exact absurd hs hi
  | reset => exact .inl rfl

theorem Shift.stopping {s t : Controller} (h : s.Shift t) (hs : s.phase = .stopping) :
    t.phase = .idle ∨
      t.phase = .stopping ∧ t.generation = s.generation ∧ t.stopping = s.stopping := by
  cases h with
  | same | release => exact .inr ⟨hs, rfl, rfl⟩
  | claim call hp | stream call hp | fail hp => simp [hs] at hp
  | stop hi hn => exact absurd hs hn
  | reset => exact .inl rfl

def Drives (s : Controller) (call : Nat) : Prop :=
  match s.phase with
  | .streaming | .failed => s.worker = some call
  | .stopping => s.stopping = some (some call)
  | .idle | .starting => False

theorem Drives.phase {s : Controller} {call : Nat} (h : s.Drives call) :
    s.phase = .streaming ∨ s.phase = .failed ∨ s.phase = .stopping := by
  rw [Drives] at h
  cases hp : s.phase <;> simp_all

theorem Drives.unique {s : Controller} {call other : Nat} (h : s.Drives call)
    (ho : s.Drives other) : call = other := by
  rw [Drives] at h ho
  cases hp : s.phase <;> simp_all

theorem Shift.drives {s t : Controller} (h : s.Shift t) {call : Nat} (hd : s.Drives call) :
    t = s.reset ∨ t.generation = s.generation ∧ t.Drives call := by
  cases h with
  | same => exact .inr ⟨rfl, hd⟩
  | claim _ hp | stream _ hp => simp [Drives, hp] at hd
  | fail hp =>
      rw [Drives, hp] at hd
      exact .inr ⟨rfl, hd⟩
  | stop hi hn =>
      obtain hp | hp | hp := hd.phase
      · rw [Drives, hp] at hd
        exact .inr ⟨rfl, congrArg some hd⟩
      · rw [Drives, hp] at hd
        exact .inr ⟨rfl, congrArg some hd⟩
      · exact absurd hp hn
  | reset => exact .inl rfl
  | release => exact .inr ⟨rfl, hd⟩

end LiveTree.Watch.Controller
