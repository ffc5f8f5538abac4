import LiveTree.Proofs.Url.Machine

namespace LiveTree.Url

/-- A question mark stands in a text, and before any hash. -/
def Asks (cs : List Char) : Prop :=
  '?' ∈ cs.takeWhile (· ≠ '#')

theorem asks_cons {c : Char} {cs : List Char} :
    Asks (c :: cs) ↔ c ≠ '#' ∧ (c = '?' ∨ Asks cs) := by
  by_cases hc : c = '#'
  · simp [Asks, hc]
  · rw [Asks, List.takeWhile_cons_of_pos (by simpa using hc), List.mem_cons, eq_comm]
    simp [Asks, hc]

theorem not_asks_nil : ¬ Asks [] := by
  simp [Asks]

theorem not_asks_of_not_mem {cs : List Char} (h : '?' ∉ cs) : ¬ Asks cs :=
  fun ha => h (List.takeWhile_sublist _ |>.mem ha)

theorem asks_append_left {before : List Char} (h : ∀ c ∈ before, c ≠ '?' ∧ c ≠ '#')
    (cs : List Char) : Asks (before ++ cs) ↔ Asks cs := by
  induction before with
  | nil => rfl
  | cons c before ih =>
      obtain ⟨⟨hask, hhash⟩, hbefore⟩ := List.forall_mem_cons.1 h
      rw [List.cons_append, asks_cons, ih hbefore]
      simp [hask, hhash]

theorem asks_append_right {behind : List Char} (h : '?' ∉ behind) (cs : List Char) :
    Asks (cs ++ behind) ↔ Asks cs := by
  induction cs with
  | nil =>
      rw [List.nil_append]
      exact iff_of_false (not_asks_of_not_mem h) not_asks_nil
  | cons c cs ih => rw [List.cons_append, asks_cons, asks_cons, ih]

theorem asks_filter {p : Char → Bool} (hask : p '?' = true) (hhash : p '#' = true)
    (cs : List Char) : Asks (cs.filter p) ↔ Asks cs := by
  induction cs with
  | nil => rfl
  | cons c cs ih =>
      cases hc : p c with
      | true => rw [List.filter_cons_of_pos hc, asks_cons, asks_cons, ih]
      | false =>
          have hmark : c ≠ '?' := by
            rintro rfl
            rw [hask] at hc
            cases hc
          have hstop : c ≠ '#' := by
            rintro rfl
            rw [hhash] at hc
            cases hc
          rw [List.filter_cons_of_neg (by simp [hc]), ih, asks_cons]
          simp [hmark, hstop]

section Tails

theorem splitTail_hash (cs : List Char) : splitTail ('#' :: cs) = ⟨[], none, some cs⟩ := rfl

theorem splitTail_ask (cs : List Char) :
    (splitTail ('?' :: cs)).path = [] ∧ (splitTail ('?' :: cs)).query.isSome = true ∧
      ((splitTail ('?' :: cs)).fragment = none ↔ '#' ∉ cs) := by
  have hsplit : cs.takeWhile (· ≠ '#') ++ cs.dropWhile (· ≠ '#') = cs :=
    List.takeWhile_append_dropWhile
  have hquery : '#' ∉ cs.takeWhile (· ≠ '#') := by
    intro hm
    have := List.all_eq_true.1 List.all_takeWhile _ hm
    simp at this
  have hbehind := drop_length_takeWhile (· ≠ '#') cs
  cases hd : cs.dropWhile (· ≠ '#') with
  | nil =>
      have hread : splitTail ('?' :: cs) = ⟨[], some (cs.takeWhile (· ≠ '#')), none⟩ := by
        simp only [ne_eq, decide_not] at hbehind hd ⊢
        simp [splitTail, hbehind, hd]
      rw [hd, List.append_nil] at hsplit
      rw [hsplit] at hquery
      simp [hread, hquery]
  | cons c fragment =>
      have hread : splitTail ('?' :: cs) =
          ⟨[], some (cs.takeWhile (· ≠ '#')), some fragment⟩ := by
        simp only [ne_eq, decide_not] at hbehind hd ⊢
        simp [splitTail, hbehind, hd]
      have hc : c = '#' := by
        have hhead := all_head?_dropWhile (· ≠ '#') cs
        rw [hd] at hhead
        simpa using hhead
      have hmem : '#' ∈ cs := by
        rw [← hsplit, hd, hc]
        simp
      simp [hread, hmem]

theorem splitTail_cons {c : Char} (hask : c ≠ '?') (hhash : c ≠ '#') (cs : List Char) :
    splitTail (c :: cs) = { splitTail cs with path := c :: (splitTail cs).path } := by
  have hpass : (c ≠ '?' && c ≠ '#') = true := by simp [hask, hhash]
  simp only [splitTail, List.takeWhile_cons, hpass, if_true, List.length_cons, List.drop_succ_cons]
  split
  · split <;> rfl
  · rfl
  · rfl

theorem splitTail_of_plain {cs : List Char} (h : ∀ c ∈ cs, c ≠ '?' ∧ c ≠ '#') :
    splitTail cs = ⟨cs, none, none⟩ := by
  induction cs with
  | nil => rfl
  | cons c cs ih =>
      obtain ⟨⟨hask, hhash⟩, hcs⟩ := List.forall_mem_cons.1 h
      rw [splitTail_cons hask hhash, ih hcs]

theorem query_eq_none_iff (cs : List Char) : (splitTail cs).query = none ↔ ¬ Asks cs := by
  induction cs with
  | nil => exact iff_of_true rfl not_asks_nil
  | cons c cs ih =>
      rw [asks_cons]
      by_cases hhash : c = '#'
      · simp [hhash, splitTail_hash]
      by_cases hask : c = '?'
      · have hsome := (splitTail_ask cs).2.1
        rw [hask]
        cases hq : (splitTail ('?' :: cs)).query with
        | none => rw [hq] at hsome; cases hsome
        | some q => simp
      · rw [splitTail_cons hask hhash]
        simp [hhash, hask, ih]

theorem fragment_eq_none_iff (cs : List Char) : (splitTail cs).fragment = none ↔ '#' ∉ cs := by
  induction cs with
  | nil => exact iff_of_true rfl (by simp)
  | cons c cs ih =>
      by_cases hhash : c = '#'
      · simp [hhash, splitTail_hash]
      by_cases hask : c = '?'
      · rw [hask, (splitTail_ask cs).2.2]
        simp
      · rw [splitTail_cons hask hhash]
        simp [Ne.symm hhash, ih]

end Tails

end LiveTree.Url
