import LiveTree.Proofs.Replica.Writes

namespace LiveTree

namespace Json

theorem areCanonicalMembers_iff {ms : List (String × Json)} :
    areCanonicalMembers ms = true ↔ ∀ m ∈ ms, m.2 ≠ .null ∧ isCanonical m.2 = true := by
  induction ms with
  | nil => simp [areCanonicalMembers]
  | cons m ms ih =>
      obtain ⟨key, x⟩ := m
      simp [areCanonicalMembers, ih]

theorem isCanonical_object_iff {ms : List (String × Json)} :
    isCanonical (.object ms) = true ↔
      ms ≠ [] ∧ ∀ m ∈ ms, m.2 ≠ .null ∧ isCanonical m.2 = true := by
  cases ms with
  | nil => simp [isCanonical]
  | cons m ms =>
      obtain ⟨key, x⟩ := m
      simp [isCanonical, areCanonicalMembers_iff]

theorem isCanonical_members {t : Json} (h : t.isCanonical = true) :
    ∀ m ∈ t.members, m.2 ≠ .null ∧ isCanonical m.2 = true := by
  cases t with
  | object ms => exact (isCanonical_object_iff.1 h).2
  | null | bool | number | text | list => exact List.forall_mem_nil _

theorem setAt_ne_null {data : Json} (h : data ≠ .null) (p : List String) (t : Json) :
    setAt data p t ≠ .null := by
  cases p with
  | nil => exact h
  | cons s rest => simp [setAt]

/-- What is written stays in the value as it is, so that it shows there if it is not canonical. -/
theorem isCanonical_setAt_iff {data t : Json} (hd : data ≠ .null) (ht : t.isCanonical = true)
    (p : List String) : (setAt data p t).isCanonical = true ↔ data.isCanonical = true := by
  induction p generalizing t with
  | nil => rfl
  | cons s rest ih =>
      have hchild : ((Keyed.get? s t.members).getD .null).isCanonical = true := by
        cases hs : Keyed.get? s t.members with
        | none => rfl
        | some child => exact (isCanonical_members ht _ (Keyed.mem_of_get? hs)).2
      rw [setAt, isCanonical_object_iff, ← ih hchild]
      constructor
      · rintro ⟨-, hms⟩
        exact (hms _ (Keyed.mem_insert_self ..)).2
      · intro hc
        refine ⟨List.ne_nil_of_mem (Keyed.mem_insert_self ..), ?_⟩
        intro m hm
        obtain rfl | hm := Keyed.mem_insert hm
        · exact ⟨setAt_ne_null hd _ _, hc⟩
        · exact isCanonical_members ht m hm

theorem ofMembers?_eq_some {ms : Keyed Json} {u : Json} (h : ofMembers? ms = some u) :
    ms ≠ [] ∧ u = .object ms := by
  cases ms with
  | nil => simp [ofMembers?] at h
  | cons m ms => exact ⟨List.cons_ne_nil _ _, (Option.some.inj h).symm⟩

theorem isCanonical_removeAt {p : List String} {t u : Json} (ht : t.isCanonical = true)
    (h : removeAt p t = some u) : u.isCanonical = true ∧ (t ≠ .null → u ≠ .null) := by
  induction p generalizing t u with
  | nil => simp [removeAt] at h
  | cons s rest ih =>
      cases t with
      | object ms =>
          obtain ⟨hne, hms⟩ := isCanonical_object_iff.1 ht
          simp only [removeAt] at h
          split at h
          · obtain ⟨-, rfl⟩ := ofMembers?_eq_some h
            exact ⟨ht, id⟩
          · next child hs =>
              obtain ⟨hchild, hcanonical⟩ := hms _ (Keyed.mem_of_get? hs)
              obtain ⟨hleft, rfl⟩ := ofMembers?_eq_some h
              refine ⟨isCanonical_object_iff.2 ⟨hleft, ?_⟩, by simp⟩
              intro m hm
              cases hr : removeAt rest child with
              | none =>
                  rw [hr] at hm
                  exact hms m ((Keyed.erase_sublist s ms).mem hm)
              | some left =>
                  rw [hr] at hm
                  obtain ⟨hl, hn⟩ := ih hcanonical hr
                  obtain rfl | hm := Keyed.mem_insert hm
                  · exact ⟨hn hchild, hl⟩
                  · exact hms m hm
      | null | bool | number | text | list =>
          obtain rfl := Option.some.inj h
          exact ⟨ht, id⟩

end Json

namespace Replica

theorem isCanonical_putAt_iff {r : Replica} (hr : r.value.isCanonical = true) (p : List String)
    (data : Json) : (r.putAt p data).value.isCanonical = true ↔ data.isCanonical = true := by
  rw [putAt]
  split
  · next hd =>
      subst hd
      refine iff_of_true ?_ rfl
      cases hu : r.value.removeAt p with
      | none => rfl
      | some u => exact (Json.isCanonical_removeAt hr hu).1
  · next hd => exact Json.isCanonical_setAt_iff hd hr p

theorem isCanonical_apply {r : Replica} {e : Event} (hr : r.value.isCanonical = true)
    (he : ∀ w ∈ e.writes, w.2.isCanonical = true) : (r.apply e).value.isCanonical = true := by
  rw [apply_eq]
  generalize e.writes = ws at he
  induction ws generalizing r with
  | nil => exact hr
  | cons w ws ih =>
      obtain ⟨hw, hws⟩ := List.forall_mem_cons.1 he
      exact ih ((isCanonical_putAt_iff hr w.1 w.2).2 hw) hws

/-- As long as all data that events write is canonical, so is the value that they make; and an
event that makes a single write then keeps it so exactly if its data is canonical. -/
theorem isCanonical_history {events : List Event}
    (h : ∀ e ∈ events, ∀ w ∈ e.writes, w.2.isCanonical = true) :
    (events.foldl apply new).value.isCanonical = true ∧
      ∀ (e : Event) (p : List String) (data : Json), e.writes = [(p, data)] →
        (((events.foldl apply new).apply e).value.isCanonical = true ↔
          data.isCanonical = true) := by
  have hcanonical (r : Replica) (hr : r.value.isCanonical = true) :
      (events.foldl apply r).value.isCanonical = true := by
    induction events generalizing r with
    | nil => exact hr
    | cons e events ih =>
        obtain ⟨he, hevents⟩ := List.forall_mem_cons.1 h
        exact ih hevents (r.apply e) (isCanonical_apply hr he)
  have hvalue := hcanonical new rfl
  refine ⟨hvalue, ?_⟩
  intro e p data he
  rw [apply_of_writes he]
  exact isCanonical_putAt_iff hvalue p data

/-- A number comes into a canonical value and is deleted again, with all that it leaves empty. -/
theorem isCanonical_history_pruned : ∃ (events : List Event) (e : Event),
    (∀ e ∈ events, ∀ w ∈ e.writes, w.2.isCanonical = true) ∧
      ((events.foldl apply new).apply e).value = .object [("count", .bool true)] ∧
        ((events.foldl apply new).apply e).value.isCanonical = true := by
  let events : List Event :=
    [⟨.put, "/", .object [("count", .bool true)], none⟩,
     ⟨.patch, "users/", .object [("alice/age", .number (.whole 30)), ("bob", .null)], none⟩]
  let e : Event := ⟨.put, "/users/alice/age", .null, none⟩
  have h : ∀ e ∈ events, ∀ w ∈ e.writes, w.2.isCanonical = true := by decide +kernel
  have hvalue : ((events.foldl apply new).apply e).value = .object [("count", .bool true)] := by
    decide +kernel
  obtain ⟨-, hstep⟩ := isCanonical_history h
  have hwrites : e.writes = [(["users", "alice", "age"], .null)] := by decide +kernel
  exact ⟨events, e, h, hvalue, (hstep e _ .null hwrites).2 rfl⟩

/-- A put of an object with a null member and an empty one is kept as it comes. -/
theorem not_isCanonical_put : ¬ ∀ events : List Event,
    (events.foldl apply new).value.isCanonical = true := by
  intro h
  have hput := h [⟨.put, "/", .object [("a", .null), ("b", .object [])], none⟩]
  revert hput
  decide +kernel

end Replica

end LiveTree
