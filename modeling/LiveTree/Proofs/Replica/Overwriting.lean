import LiveTree.Proofs.Replica.Canonical
import LiveTree.Proofs.Replica.Members

namespace LiveTree

namespace Json

variable {data : Json} {p : List String} {t u x : Json}

theorem getD_null_lookup (o : Option Json) (p : List String) :
    ((o.getD .null).lookup p).getD .null = (o >>= lookup p).getD .null := by
  cases o with
  | none => cases p <;> rfl
  | some x => rfl

theorem setAt_append (data : Json) (p q : List String) (t : Json) :
    setAt data (p ++ q) t = setAt (setAt data q ((t.lookup p).getD .null)) p t := by
  induction p generalizing t with
  | nil => rfl
  | cons s p ih =>
      rw [List.cons_append, setAt, ih, getD_null_lookup]
      rfl

theorem members_setAt (data : Json) (s : String) (p : List String) (t : Json) :
    (setAt data (s :: p) t).members =
      Keyed.insert s (setAt data p ((Keyed.get? s t.members).getD .null)) t.members :=
  rfl

theorem setAt_setAt (data other : Json) (p : List String) (t : Json) :
    setAt data p (setAt other p t) = setAt data p t := by
  induction p generalizing t with
  | nil => rfl
  | cons s p ih =>
      rw [setAt, members_setAt, Keyed.get?_insert_self, Keyed.insert_insert]
      exact congrArg (fun child => object (Keyed.insert s child t.members)) (ih _)

theorem insert_putBack (key : String) (value : Json) {ms : Keyed Json} (h : ms.Sorted)
    (left : Option Json) : Keyed.insert key value (putBack key ms left) = ms.insert key value :=
  Keyed.putBack_putBack h key (some value) left

theorem putBack_insert (key : String) (value : Json) {ms : Keyed Json} (h : ms.Sorted)
    (left : Option Json) : putBack key (ms.insert key value) left = putBack key ms left :=
  Keyed.putBack_putBack h key left (some value)

theorem members_ofMembers? (ms : Keyed Json) : ((ofMembers? ms).getD .null).members = ms := by
  cases ms <;> rfl

/-- A deletion at a path or below it makes no difference to a later write at the path. -/
theorem setAt_removeAt (data : Json) (ht : t.Ordered) (p rest : List String) :
    setAt data p ((removeAt (p ++ rest) t).getD .null) = setAt data p t := by
  induction p generalizing t with
  | nil => rfl
  | cons s p ih =>
      cases ht with
      | null | bool | number | text | list => rfl
      | @object ms hs hms =>
          rw [List.cons_append, removeAt_object, setAt, setAt, members_ofMembers?, members,
            Keyed.get?_putBack_self hs, insert_putBack s _ hs]
          cases hc : Keyed.get? s ms with
          | none => rfl
          | some child =>
              have hchild := ih (hms _ (Keyed.mem_of_get? hc))
              exact congrArg (fun child => object (Keyed.insert s child ms)) hchild

/-- A write at a path where something stands makes no difference to a later deletion there. -/
theorem removeAt_setAt (data : Json) (ht : t.Ordered) (h : t.lookup p = some x) :
    removeAt p (setAt data p t) = removeAt p t := by
  induction p generalizing t with
  | nil => rfl
  | cons s p ih =>
      cases ht with
      | null | bool | number | text | list => simp [lookup, members, Keyed.get?] at h
      | @object ms hs hms =>
          obtain ⟨child, hc, h⟩ := Option.bind_eq_some_iff.1 h
          have hmember : Keyed.get? s ms = some child := hc
          have hchild := ih (hms _ (Keyed.mem_of_get? hmember)) h
          simp only [setAt, members, removeAt, Keyed.get?_insert_self, hmember, Option.getD_some,
            hchild, putBack_insert s _ hs]

/-- What a deletion leaves stays as it is when the same is deleted again, or something below it. -/
theorem removeAt_of_removeAt (ht : t.Ordered) (h : removeAt p t = some u) (rest : List String) :
    removeAt (p ++ rest) u = some u := by
  induction p generalizing t u with
  | nil => exact nomatch h
  | cons s p ih =>
      cases ht with
      | null | bool | number | text | list =>
          obtain rfl := Option.some.inj h
          rfl
      | @object ms hs hms =>
          rw [removeAt_object] at h
          obtain ⟨-, rfl⟩ := ofMembers?_eq_some h
          have hleft : ((Keyed.get? s ms >>= removeAt p) >>= removeAt (p ++ rest)) =
              (Keyed.get? s ms >>= removeAt p) := by
            cases hl : Keyed.get? s ms >>= removeAt p with
            | none => rfl
            | some left =>
                obtain ⟨child, hc, hl⟩ := Option.bind_eq_some_iff.1 hl
                exact ih (hms _ (Keyed.mem_of_get? hc)) hl
          rw [List.cons_append, removeAt_object, Keyed.get?_putBack_self hs,
            Keyed.putBack_putBack hs, hleft]
          exact h

theorem removeAt_null (p : List String) : (removeAt p .null).getD .null = .null := by
  cases p <;> rfl

theorem removeAt_removeAt (ht : t.Ordered) (p rest : List String) :
    (removeAt (p ++ rest) ((removeAt p t).getD .null)).getD .null = (removeAt p t).getD .null := by
  cases h : removeAt p t with
  | none => exact removeAt_null _
  | some u => rw [Option.getD_some, removeAt_of_removeAt ht h, Option.getD_some]

/-- A deletion below a place deletes what stands there, or puts what it leaves of that back. -/
theorem removeAt_append (h : t.lookup p = some x) (q : List String) :
    removeAt (p ++ q) t =
      (removeAt q x).elim (removeAt p t) fun left => some (setAt left p t) := by
  induction p generalizing t with
  | nil =>
      obtain rfl := Option.some.inj h
      cases hq : removeAt q t with
      | none => simpa [removeAt] using hq
      | some left => simpa [setAt] using hq
  | cons s p ih =>
      cases t with
      | object ms =>
          obtain ⟨child, hc, h⟩ := Option.bind_eq_some_iff.1 h
          have hmember : Keyed.get? s ms = some child := hc
          simp only [List.cons_append, removeAt, hmember, ih h, setAt, members, Option.getD_some]
          cases removeAt q x with
          | none => rfl
          | some left =>
              have hne := List.ne_nil_of_mem (Keyed.mem_insert_self s (setAt left p child) ms)
              simp only [Option.elim_some, putBack]
              cases hi : Keyed.insert s (setAt left p child) ms with
              | nil => exact absurd hi hne
              | cons m ms => rfl
      | null | bool | number | text | list => simp [lookup, members, Keyed.get?] at h

end Json

namespace Replica

open Json

variable {r : Replica} {p : List String}

theorem value_putAt_null (r : Replica) (p : List String) :
    (r.putAt p .null).value = (r.value.removeAt p).getD .null := by
  rw [putAt, if_pos rfl]

theorem value_putAt_of_ne {data : Json} (h : data ≠ .null) (r : Replica) (p : List String) :
    (r.putAt p data).value = setAt data p r.value := by
  rw [putAt, if_neg h]

theorem lookup_putAt_apart {q : List String} (hr : r.value.Ordered) (h : Apart p q) (data : Json) :
    (r.putAt p data).value.lookup q = r.value.lookup q := by
  by_cases hd : data = .null
  · rw [hd, value_putAt_null, lookup_getD_null _ h.ne_nil, lookup_removeAt_apart hr h]
  · rw [value_putAt_of_ne hd, lookup_setAt_apart data h]

theorem putAt_putAt {x : Json} (hr : r.value.Ordered) (h : r.value.lookup p = some x)
    (data other : Json) : (r.putAt p other).putAt p data = r.putAt p data := by
  by_cases hd : data = .null <;> by_cases ho : other = .null
  · subst hd ho
    simpa [putAt] using removeAt_removeAt hr p []
  · simp [putAt, hd, ho, removeAt_setAt other hr h]
  · simpa [putAt, hd, ho] using setAt_removeAt data hr p []
  · simp [putAt, hd, ho, setAt_setAt]

end Replica

end LiveTree
