namespace LiveTree

variable {α β : Type}

abbrev Keyed (α : Type) := List (String × α)

namespace Keyed

def get? (key : String) : Keyed α → Option α
  | [] => none
  | (k, v) :: rest => if key = k then some v else get? key rest

def insert (key : String) (value : α) : Keyed α → Keyed α
  | [] => [(key, value)]
  | (k, v) :: rest =>
      if key = k then (key, value) :: rest
      else if key < k then (key, value) :: (k, v) :: rest
      else (k, v) :: insert key value rest

def erase (key : String) : Keyed α → Keyed α
  | [] => []
  | (k, v) :: rest => if key = k then rest else (k, v) :: erase key rest

def keys (m : Keyed α) : List String :=
  m.map Prod.fst

def Sorted (m : Keyed α) : Prop :=
  m.Pairwise fun a b => a.1 < b.1

instance (m : Keyed α) : Decidable m.Sorted :=
  inferInstanceAs (Decidable (m.Pairwise _))

theorem get?_insert_self (key : String) (value : α) (m : Keyed α) :
    (m.insert key value).get? key = some value := by
  induction m with
  | nil => simp [insert, get?]
  | cons e rest ih =>
      obtain ⟨k, v⟩ := e
      simp only [insert]
      split
      · simp [get?]
      · split
        · simp [get?]
        · simp [get?, *]

theorem get?_insert_of_ne {key other : String} (h : other ≠ key) (value : α) (m : Keyed α) :
    (m.insert key value).get? other = m.get? other := by
  induction m with
  | nil => simp [insert, get?, h]
  | cons e rest ih =>
      obtain ⟨k, v⟩ := e
      simp only [insert]
      split
      · next hk => subst hk; simp [get?, h]
      · split
        · simp [get?, h]
        · simp [get?, ih]

theorem get?_eq_none_iff (key : String) (m : Keyed α) : m.get? key = none ↔ key ∉ m.keys := by
  induction m with
  | nil => simp [get?, keys]
  | cons e rest ih =>
      obtain ⟨k, v⟩ := e
      simp only [get?, keys, List.map_cons, List.mem_cons, not_or]
      split
      · simp [*]
      · next hk => simpa [hk, keys] using ih

theorem mem_of_get? {key : String} {value : α} {m : Keyed α} (h : m.get? key = some value) :
    (key, value) ∈ m := by
  induction m with
  | nil => simp [get?] at h
  | cons e rest ih =>
      obtain ⟨k, v⟩ := e
      simp only [get?] at h
      split at h
      · next hk =>
          obtain rfl := Option.some.inj h
          exact hk ▸ List.mem_cons_self ..
      · exact List.mem_cons_of_mem _ (ih h)

theorem get?_of_mem {key : String} {value : α} {m : Keyed α} (h : m.Sorted)
    (hm : (key, value) ∈ m) : m.get? key = some value := by
  induction m with
  | nil => cases hm
  | cons e rest ih =>
      obtain ⟨hk, hr⟩ := List.pairwise_cons.1 h
      rcases List.mem_cons.1 hm with rfl | hm
      · exact if_pos rfl
      · have hne : key ≠ e.1 := fun he => String.lt_irrefl _ (he ▸ hk _ hm)
        rw [get?, if_neg hne, ih hr hm]

theorem get?_erase_of_ne {key other : String} (h : other ≠ key) (m : Keyed α) :
    (m.erase key).get? other = m.get? other := by
  induction m with
  | nil => rfl
  | cons e rest ih =>
      obtain ⟨k, v⟩ := e
      simp only [erase]
      split
      · next hk => subst hk; simp [get?, h]
      · simp [get?, ih]

theorem get?_erase_self (key : String) {m : Keyed α} (h : m.Sorted) :
    (m.erase key).get? key = none := by
  induction m with
  | nil => rfl
  | cons e rest ih =>
      obtain ⟨k, v⟩ := e
      obtain ⟨hk, hr⟩ := List.pairwise_cons.1 h
      simp only [erase]
      split
      · next hs =>
          subst hs
          refine (get?_eq_none_iff _ _).2 fun hm => ?_
          obtain ⟨b, hb, rfl⟩ := List.mem_map.1 hm
          exact String.lt_irrefl _ (hk b hb)
      · next hs => simp [get?, hs, ih hr]

theorem mem_insert {key : String} {value : α} {m : Keyed α} {e : String × α}
    (h : e ∈ m.insert key value) : e = (key, value) ∨ e ∈ m := by
  induction m with
  | nil => simpa [insert] using h
  | cons d rest ih =>
      obtain ⟨k, v⟩ := d
      simp only [insert] at h
      split at h
      · rcases List.mem_cons.1 h with rfl | h
        · exact .inl rfl
        · exact .inr (List.mem_cons_of_mem _ h)
      · split at h
        · exact (List.mem_cons.1 h)
        · rcases List.mem_cons.1 h with rfl | h
          · exact .inr (List.mem_cons_self ..)
          · exact (ih h).imp_right (List.mem_cons_of_mem _)

theorem mem_insert_self (key : String) (value : α) (m : Keyed α) :
    (key, value) ∈ m.insert key value :=
  mem_of_get? (get?_insert_self key value m)

theorem insert_of_get? {key : String} {value : α} {m : Keyed α} (h : m.Sorted)
    (hv : m.get? key = some value) : m.insert key value = m := by
  induction m with
  | nil => simp [get?] at hv
  | cons e rest ih =>
      obtain ⟨k, v⟩ := e
      obtain ⟨hk, hr⟩ := List.pairwise_cons.1 h
      simp only [get?] at hv
      simp only [insert]
      split
      · next hs =>
          rw [if_pos hs] at hv
          rw [hs, Option.some.inj hv]
      · next hs =>
          rw [if_neg hs] at hv
          have hlt : k < key := hk _ (mem_of_get? hv)
          rw [if_neg (String.lt_asymm hlt), ih hr hv]

theorem sorted_insert (key : String) (value : α) {m : Keyed α} (h : m.Sorted) :
    (m.insert key value).Sorted := by
  induction m with
  | nil => exact List.pairwise_singleton ..
  | cons e rest ih =>
      obtain ⟨k, v⟩ := e
      obtain ⟨hk, hr⟩ := List.pairwise_cons.1 h
      simp only [insert]
      split
      · next hs => subst hs; exact List.pairwise_cons.2 ⟨hk, hr⟩
      · split
        · next hl =>
            refine List.pairwise_cons.2 ⟨fun b hb => ?_, h⟩
            rcases List.mem_cons.1 hb with rfl | hb
            · exact hl
            · exact String.lt_trans hl (hk b hb)
        · next hs hl =>
            refine List.pairwise_cons.2 ⟨fun b hb => ?_, ih hr⟩
            rcases mem_insert hb with rfl | hb
            · have hle := String.not_lt.1 hl
              exact Decidable.by_contra fun hn => hs (String.le_antisymm (String.not_lt.1 hn) hle)
            · exact hk b hb

theorem erase_sublist (key : String) (m : Keyed α) : (m.erase key).Sublist m := by
  induction m with
  | nil => exact .slnil
  | cons e rest ih =>
      obtain ⟨k, v⟩ := e
      simp only [erase]
      split
      · exact List.sublist_cons_self ..
      · exact ih.cons_cons _

theorem sorted_erase (key : String) {m : Keyed α} (h : m.Sorted) : (m.erase key).Sorted :=
  List.Pairwise.sublist (erase_sublist key m) h

theorem insert_insert (key : String) (value other : α) (m : Keyed α) :
    (m.insert key other).insert key value = m.insert key value := by
  induction m with
  | nil => simp [insert]
  | cons e rest ih =>
      obtain ⟨k, v⟩ := e
      simp only [insert]
      split
      · simp [insert]
      · next hs =>
          split
          · simp [insert]
          · next hl => simp only [insert, if_neg hs, if_neg hl, ih]

theorem erase_of_get? {key : String} {m : Keyed α} (h : m.get? key = none) : m.erase key = m := by
  induction m with
  | nil => rfl
  | cons e rest ih =>
      obtain ⟨k, v⟩ := e
      simp only [get?] at h
      split at h
      · exact nomatch h
      · next hs => rw [erase, if_neg hs, ih h]

/-- All keys behind the first are larger. -/
theorem get?_eq_none_of_not_lt {key : String} {e : String × α} {rest : Keyed α}
    (h : Sorted (e :: rest)) (hk : ¬ e.1 < key) : get? key rest = none := by
  refine (get?_eq_none_iff _ _).2 fun hm => ?_
  obtain ⟨b, hb, rfl⟩ := List.mem_map.1 hm
  exact hk ((List.pairwise_cons.1 h).1 b hb)

theorem ext {m n : Keyed α} (hm : m.Sorted) (hn : n.Sorted)
    (h : ∀ key, m.get? key = n.get? key) : m = n := by
  induction m generalizing n with
  | nil =>
      cases n with
      | nil => rfl
      | cons d others => simpa [get?] using h d.1
  | cons e rest ih =>
      cases n with
      | nil => simpa [get?] using h e.1
      | cons d others =>
          obtain ⟨k, v⟩ := e
          obtain ⟨l, w⟩ := d
          obtain ⟨-, hrest⟩ := List.pairwise_cons.1 hm
          obtain ⟨-, hothers⟩ := List.pairwise_cons.1 hn
          -- the smaller of two first keys would be missing in the other map
          have hkl : ¬ k < l := by
            intro hlt
            have hk := h k
            have hne : k ≠ l := fun he => String.lt_irrefl _ (he ▸ hlt)
            simp [get?, hne, get?_eq_none_of_not_lt hn (String.lt_asymm hlt)] at hk
          have hlk : ¬ l < k := by
            intro hlt
            have hl := h l
            have hne : l ≠ k := fun he => String.lt_irrefl _ (he ▸ hlt)
            simp [get?, hne, get?_eq_none_of_not_lt hm (String.lt_asymm hlt)] at hl
          obtain rfl : k = l := String.le_antisymm (String.not_lt.1 hlk) (String.not_lt.1 hkl)
          obtain rfl : v = w := by simpa [get?] using h k
          refine congrArg (List.cons (k, v)) (ih hrest hothers fun key => ?_)
          by_cases hk : key = k
          · subst hk
            have hlt := String.lt_irrefl key
            rw [get?_eq_none_of_not_lt hm hlt, get?_eq_none_of_not_lt hn hlt]
          · simpa [get?, hk] using h key

end Keyed

end LiveTree
