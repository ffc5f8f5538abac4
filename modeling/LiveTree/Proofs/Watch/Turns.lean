import LiveTree.Proofs.Watch.Stages

namespace LiveTree.Watch.System

def stage (s : System) (n : Nat) : Stage :=
  (s.calls[n]?).elim .outside Call.stage

theorem stage_of_getElem? {s : System} {n : Nat} {c : Call} (h : s.calls[n]? = some c) :
    s.stage n = c.stage := by
  rw [stage, h]
  rfl

theorem stage_self {s t : System} {n : Nat} {c d : Call} (h : s.calls[n]? = some c)
    (ht : t.calls = s.calls.set n d) : t.stage n = d.stage := by
  have hn : n < s.calls.length := (List.getElem?_eq_some_iff.1 h).1
  apply stage_of_getElem?
  rw [ht, List.getElem?_set_self hn]

theorem stage_of_ne {s t : System} {n k : Nat} {d : Call} (h : k ≠ n)
    (ht : t.calls = s.calls.set n d) : t.stage k = s.stage k := by
  rw [stage, stage, ht, List.getElem?_set_ne (Ne.symm h)]

theorem elim_openCall {β : Type} {f : Call → β} {b : β} {c : Call} (hc : f c = b)
    (calls : List Call) (n : Nat) : ((calls ++ [c])[n]?).elim b f = (calls[n]?).elim b f := by
  by_cases h : n < calls.length
  · rw [List.getElem?_append_left h]
  · rw [List.getElem?_append_right (Nat.le_of_not_lt h),
      List.getElem?_eq_none (Nat.le_of_not_lt h), List.getElem?_singleton]
    split
    · exact hc
    · rfl

theorem stage_openCall {s t : System} {capacity : Option Nat} {replicating : Bool}
    (ht : t.calls = s.calls ++ [Call.new capacity replicating]) (n : Nat) :
    t.stage n = s.stage n := by
  rw [stage, stage, ht]
  exact elim_openCall (f := Call.stage) rfl s.calls n

inductive Turn (s t : System) : Prop
  | arrive (hc : t.controller = s.controller) (hn : ∀ n, t.stage n = s.stage n)
      (hk : t.stops = s.stops ∨ t.stops = s.stops ++ [.entering])
  | call (n : Nat) (he : Call.Effect n s.controller t.controller (s.stage n) (t.stage n))
      (hn : ∀ k, k ≠ n → t.stage k = s.stage k) (hk : t.stops = s.stops)
  | stop (k : Nat) (p q : StopPoint) (cancelled : Option Nat) (hp : s.stops[k]? = some p)
      (he : StopMove.Effect s.hasEnded s.controller t.controller p cancelled q)
      (hn : ∀ n, t.stage n = s.stage n) (hk : t.stops = s.stops.set k q)
  | release (hc : t.controller = s.controller.release.2) (hn : ∀ n, t.stage n = s.stage n)
      (hk : t.stops = s.stops)

theorem fireCall_cases {s t : System} {n : Nat} {m : CallMove} (h : s.fire (.call n m) = some t) :
    ∃ c d, s.calls[n]? = some c ∧
      m.fire n (s.isCancelled n) s.controller c = some (t.controller, d) ∧
      t = { s with controller := t.controller, calls := s.calls.set n d } := by
  simp only [fire, fireCall?] at h
  split at h
  · simp at h
  · next c hc =>
      obtain ⟨⟨k, d⟩, hf, rfl⟩ := Option.map_eq_some_iff.1 h
      exact ⟨c, d, hc, hf, rfl⟩

theorem fireStop_cases {s t : System} {k : Nat} {m : StopMove} (h : s.fire (.stop k m) = some t) :
    ∃ p cancelled q, s.stops[k]? = some p ∧
      m.fire s.hasEnded s.controller p = some (t.controller, cancelled, q) ∧
      t = { s with controller := t.controller, stops := s.stops.set k q,
                   cancelled := cancelled.toList ++ s.cancelled } := by
  simp only [fire, fireStop?] at h
  split at h
  · simp at h
  · next p hp =>
      obtain ⟨⟨c, cancelled, q⟩, hf, rfl⟩ := Option.map_eq_some_iff.1 h
      exact ⟨p, cancelled, q, hp, hf, rfl⟩

theorem openCall_cases {s t : System} {capacity : Option Nat} {replicating : Bool}
    (h : s.fire (.openCall capacity replicating) = some t) :
    t = { s with calls := s.calls ++ [Call.new capacity replicating] } := by
  simp only [fire, openCall?] at h
  split at h
  · simp at h
  · exact (Option.some.inj h).symm

theorem openStop_cases {s t : System} (h : s.fire .openStop = some t) :
    t = { s with stops := s.stops ++ [.entering] } := by
  simp only [fire, openStop?] at h
  split at h
  · simp at h
  · exact (Option.some.inj h).symm

theorem release_cases {s t : System} (h : s.fire .release = some t) :
    s.isBusy = false ∧
      t = { s with controller := s.controller.release.2,
                   cancelled := s.controller.release.1.toList ++ s.cancelled,
                   released := true } := by
  simp only [fire, release?] at h
  split at h
  · simp at h
  · next hb =>
      simp only [Bool.or_eq_true, not_or, Bool.not_eq_true] at hb
      exact ⟨hb.2, (Option.some.inj h).symm⟩

theorem fire_turn {s t : System} {m : Move} (h : s.fire m = some t) : s.Turn t := by
  cases m with
  | openCall capacity replicating =>
      obtain rfl := openCall_cases h
      exact .arrive rfl (stage_openCall rfl) (.inl rfl)
  | call n m =>
      obtain ⟨c, d, hc, hf, ht⟩ := fireCall_cases h
      have hcalls : t.calls = s.calls.set n d := by rw [ht]
      have he := CallMove.fire_effect hf
      rw [← stage_of_getElem? hc, ← stage_self hc hcalls] at he
      exact .call n he (fun k hk => stage_of_ne hk hcalls) (by rw [ht])
  | openStop =>
      obtain rfl := openStop_cases h
      exact .arrive rfl (fun n => rfl) (.inr rfl)
  | stop k m =>
      obtain ⟨p, cancelled, q, hp, hf, ht⟩ := fireStop_cases h
      exact .stop k p q cancelled hp (StopMove.fire_effect hf) (fun n => by rw [ht]; rfl)
        (by rw [ht])
  | release =>
      obtain ⟨-, rfl⟩ := release_cases h
      exact .release rfl (fun n => rfl) rfl

theorem Turn.shift {s t : System} (h : s.Turn t) : s.controller.Shift t.controller := by
  cases h with
  | arrive hc =>
      rw [hc]
      exact .same
  | call n he => exact he.shift
  | stop k p q cancelled hp he => exact he.shift
  | release hc =>
      rw [hc]
      exact .release

theorem Turn.stage_cases {s t : System} (h : s.Turn t) (n : Nat) : t.stage n = s.stage n ∨
    Call.Effect n s.controller t.controller (s.stage n) (t.stage n) := by
  cases h with
  | arrive _ hn | stop _ _ _ _ _ _ hn | release _ hn => exact .inl (hn n)
  | call k he hn =>
      by_cases hk : n = k
      · subst hk
        exact .inr he
      · exact .inl (hn n hk)

theorem Turn.stops {s t : System} (ht : s.Turn t) {k : Nat} {q : StopPoint}
    (hq : t.stops[k]? = some q) :
    s.stops[k]? = some q ∨ q = .entering ∨
      ∃ p cancelled, s.stops[k]? = some p ∧
        StopMove.Effect s.hasEnded s.controller t.controller p cancelled q := by
  cases ht with
  | arrive _ _ hk =>
      obtain hk | hk := hk
      · exact .inl (hk ▸ hq)
      · rw [hk, List.getElem?_append, List.getElem?_singleton] at hq
        split at hq
        · exact .inl hq
        · split at hq
          · exact .inr (.inl (Option.some.inj hq).symm)
          · simp at hq
  | call _ _ _ hk | release _ _ hk => exact .inl (hk ▸ hq)
  | stop i p r cancelled hp he _ hk =>
      rw [hk, List.getElem?_set] at hq
      split at hq
      · next hik =>
          subst hik
          split at hq
          · obtain rfl := Option.some.inj hq
            exact .inr (.inr ⟨p, cancelled, hp, he⟩)
          · simp at hq
      · exact .inl hq

theorem Turn.stops_of {s t : System} (ht : s.Turn t) {k : Nat} {p : StopPoint}
    (hp : s.stops[k]? = some p) :
    t.stops[k]? = some p ∨
      ∃ q cancelled, t.stops[k]? = some q ∧
        StopMove.Effect s.hasEnded s.controller t.controller p cancelled q := by
  have hk : k < s.stops.length := (List.getElem?_eq_some_iff.1 hp).1
  cases ht with
  | arrive _ _ hs =>
      obtain hs | hs := hs
      · exact .inl (hs ▸ hp)
      · rw [hs, List.getElem?_append_left hk]
        exact .inl hp
  | call _ _ _ hs | release _ _ hs => exact .inl (hs ▸ hp)
  | stop i r q cancelled hr he _ hs =>
      by_cases hik : i = k
      · subst hik
        obtain rfl := Option.some.inj (hp.symm.trans hr)
        refine .inr ⟨q, cancelled, ?_, he⟩
        rw [hs, List.getElem?_set_self hk]
      · rw [hs, List.getElem?_set_ne hik]
        exact .inl hp

theorem run_cons {s t : System} {m : Move} {moves : List Move} :
    s.run (m :: moves) = some t ↔ ∃ u, s.fire m = some u ∧ u.run moves = some t := by
  rw [run]
  cases s.fire m <;> simp

theorem run_keeps {P : System → Prop} (hturn : ∀ {u v : System}, u.Turn v → P u → P v)
    {s t : System} {moves : List Move} (hr : s.run moves = some t) (hs : P s) : P t := by
  induction moves generalizing s with
  | nil => exact Option.some.inj hr ▸ hs
  | cons m moves ih =>
      obtain ⟨u, hu, hr⟩ := run_cons.1 hr
      exact ih hr (hturn (fire_turn hu) hs)

theorem run_append_of {s t : System} {before : List Move} (h : s.run before = some t)
    (after : List Move) : s.run (before ++ after) = t.run after := by
  rw [run_append, h]
  rfl

theorem Reachable.run {s t : System} {moves : List Move} (h : s.Reachable)
    (hr : s.run moves = some t) : t.Reachable := by
  obtain ⟨before, hs⟩ := h
  exact ⟨before ++ moves, (run_append_of hs moves).trans hr⟩

end LiveTree.Watch.System
