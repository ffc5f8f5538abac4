import LiveTree.Proofs.Watch.Log

namespace LiveTree.Watch.System

theorem stage_of_pump? {s : System} {n : Nat} {p : Pump} (h : s.pump? n = some p) :
    s.stage n = p.stage := by
  obtain ⟨c, hc, hp⟩ := Option.bind_eq_some_iff.1 h
  rw [stage_of_getElem? hc, Call.stage, Call.pump?_eq_some.1 hp]

/-- Where an entry of a log was made: a state that is still coherent, and in which the pumps of
the state before the log are still there. -/
theorem Coherent.log {s : System} (h : s.Coherent) {moves : List Move} {e : Entry}
    (he : e ∈ s.log moves) :
    ∃ u : System, u.Coherent ∧ u.stage e.number = .active e.generation ∧
      e.generation = u.controller.generation ∧ e.current = u.controller.generation ∧
      s.controller.generation ≤ u.controller.generation ∧
      ∀ n g, (s.stage n).pump? = some g → (u.stage n).pump? = some g := by
  induction moves generalizing s with
  | nil => simp [System.log] at he
  | cons m moves ih =>
      rw [System.log] at he
      split at he
      · simp at he
      · next t ht =>
          have hturn := fire_turn ht
          rw [List.mem_append, Option.mem_toList] at he
          obtain he | he := he
          · obtain ⟨hs, hg, hc⟩ := h.entry he
            exact ⟨s, h, hs, hg, hc, Nat.le_refl _, fun _ _ hp => hp⟩
          · obtain ⟨u, hu, hs, hg, hc, hle, hp⟩ := ih (h.turn hturn) he
            exact ⟨u, hu, hs, hg, hc, Nat.le_trans hturn.shift.generation_le hle,
              fun n g hn => hp n g (hturn.pump? hn)⟩

/-- An entry before another: generations grow, and one generation is one call. -/
def Entry.Precedes (a b : Entry) : Prop :=
  a.generation ≤ b.generation ∧ (a.generation = b.generation ↔ a.number = b.number)

theorem Coherent.log_pairwise {s : System} (h : s.Coherent) (moves : List Move) :
    (s.log moves).Pairwise Entry.Precedes := by
  induction moves generalizing s with
  | nil => exact .nil
  | cons m moves ih =>
      rw [System.log]
      split
      · exact .nil
      · next t ht =>
          have hturn := fire_turn ht
          refine List.pairwise_append.2 ⟨?_, ih (h.turn hturn), ?_⟩
          · cases s.logged? m <;> simp
          · intro a ha b hb
            obtain ⟨hs, hg, -⟩ := h.entry (Option.mem_toList.1 ha)
            obtain ⟨u, hu, hs', hg', -, hle, hp⟩ := (h.turn hturn).log hb
            have hpump : (u.stage a.number).pump? = some a.generation :=
              hp _ _ (hturn.pump? (by rw [hs]; rfl))
            refine ⟨?_, ?_, ?_⟩
            · rw [hg, hg']
              exact Nat.le_trans hturn.shift.generation_le hle
            · intro he
              apply hu.numbered.distinct _ _ b.generation
              · exact he ▸ Stage.generation?_of_pump? hpump
              · rw [hs']
                rfl
            · intro he
              rw [he, hs'] at hpump
              exact (Option.some.inj hpump).symm

/-- On a handle one pump at most can still send, it is that of the current generation, and the
deliveries of different watches come one watch after the other. -/
theorem single_watcher {moves : List Move} {s : System} (h : new.run moves = some s) :
    (∀ n k p q, s.pump? n = some p → s.pump? k = some q → p.isDone = false → q.isDone = false →
      n = k) ∧
    (∀ n p, s.pump? n = some p → p.isDone = false →
      p.generation = s.controller.generation ∧
        (s.phase = .streaming ∨ s.phase = .failed ∨ s.phase = .stopping)) ∧
    (∀ n, s.sent n = sentIn n (new.log moves)) ∧
    (∀ e ∈ new.log moves, e.generation = e.current) ∧
    ∀ n k, n ≠ k → ¬ List.Sublist [n, k, n] ((new.log moves).map Entry.number) := by
  have hs : s.Coherent := Reachable.coherent ⟨moves, h⟩
  have hactive {n : Nat} {p : Pump} (hp : s.pump? n = some p) (hd : p.isDone = false) :
      s.stage n = .active p.generation :=
    (stage_of_pump? hp).trans (Pump.stage_of_not_isDone hd)
  refine ⟨?_, ?_, ?_, ?_, ?_⟩
  · intro n k p q hp hq hpd hqd
    exact hs.active_unique (hactive hp hpd) (hactive hq hqd)
  · intro n p hp hpd
    obtain ⟨hg, hd⟩ := hs.driven n _ (hactive hp hpd)
    exact ⟨hg, hd.phase⟩
  · intro n
    rw [sent_run h]
    rfl
  · intro e he
    obtain ⟨u, -, -, hg, hc, -⟩ := coherent_new.log he
    exact hg.trans hc.symm
  · intro n k hne hsub
    obtain ⟨entries, hl, hmap⟩ := List.sublist_map_iff.1 hsub
    obtain ⟨a, entries, rfl, rfl, ha⟩ := List.map_eq_cons_iff.1 hmap.symm
    obtain ⟨b, entries, rfl, rfl, hb⟩ := List.map_eq_cons_iff.1 ha
    obtain ⟨c, entries, rfl, hc, -⟩ := List.map_eq_cons_iff.1 hb
    have hall := (coherent_new.log_pairwise moves).sublist hl
    simp only [List.pairwise_cons, List.mem_cons, forall_eq_or_imp] at hall
    obtain ⟨⟨hab, hac, -⟩, ⟨hbc, -⟩, -⟩ := hall
    have hg : a.generation = c.generation := hac.2.2 hc.symm
    have hba : b.generation ≤ a.generation := hg ▸ hbc.1
    exact hne (hab.2.1 (Nat.le_antisymm hab.1 hba))

/-- A watch that fails, and another that is begun after it and fails too. -/
theorem single_watcher_failing : ∃ moves s, new.run moves = some s ∧ s.phase = .failed ∧
    s.stage 0 = .settled 1 ∧ s.stage 1 = .active 2 ∧ (new.log moves).map Entry.number = [0] ∧
      ∀ e ∈ new.log moves, e.generation = e.current := by
  let body : List UInt8 := Text.Utf8.encode "event: cancel\n\n".toList
  let watch (n : Nat) : List Move := [.openCall none true, .call n .enter, .call n .issue,
    .call n (.answer (.ok ⟨200, [body], .closed, .utf8⟩)), .call n .establish, .call n .poll,
    .call n .mark, .call n .look]
  let moves : List Move :=
    watch 0 ++ [.call 0 .offer, .call 0 .retire, .call 0 .close] ++ watch 1
  let s : System := (new.run moves).get (by decide +kernel)
  have h : new.run moves = some s := (Option.some_get _).symm
  have hphase : s.phase = .failed := by decide +kernel
  have hfirst : s.stage 0 = .settled 1 := by decide +kernel
  have hsecond : s.stage 1 = .active 2 := by decide +kernel
  have hlog : (new.log moves).map Entry.number = [0] := by decide +kernel
  obtain ⟨-, -, -, hgenerations, -⟩ := single_watcher h
  exact ⟨moves, s, h, hphase, hfirst, hsecond, hlog, hgenerations⟩

end LiveTree.Watch.System
