import LiveTree.Proofs.Replica.Places

namespace LiveTree

namespace Json

variable {p q : List String} {t : Json}

theorem lookup_null (h : q ≠ []) : Json.null.lookup q = none := by
  cases q with
  | nil => exact absurd rfl h
  | cons s rest => rfl

theorem lookup_getD_null (o : Option Json) (h : q ≠ []) :
    (o.getD .null).lookup q = o.bind (lookup q) := by
  cases o with
  | none => exact lookup_null h
  | some u => rfl

theorem lookup_object_cons (ms : Keyed Json) (s : String) (q : List String) :
    (object ms).lookup (s :: q) = Keyed.get? s ms >>= lookup q :=
  rfl

theorem bind_lookup_ofMembers? (ms : Keyed Json) (s : String) (q : List String) :
    (ofMembers? ms).bind (lookup (s :: q)) = Keyed.get? s ms >>= lookup q := by
  cases ms <;> rfl

theorem lookup_append (p q : List String) (t : Json) :
    t.lookup (p ++ q) = t.lookup p >>= lookup q := by
  induction p generalizing t with
  | nil => rfl
  | cons s p ih =>
      rw [List.cons_append, lookup, lookup]
      cases Keyed.get? s t.members with
      | none => rfl
      | some child => exact ih child

theorem Ordered.lookup (ht : t.Ordered) {x : Json} (h : t.lookup p = some x) : x.Ordered := by
  induction p generalizing t with
  | nil =>
      obtain rfl := Option.some.inj h
      exact ht
  | cons s p ih =>
      obtain ⟨child, hc, h⟩ := Option.bind_eq_some_iff.1 h
      exact ih (ht.members.2 _ (Keyed.mem_of_get? hc)) h

theorem lookup_setAt_append (data : Json) (p rest : List String) (t : Json) :
    (setAt data p t).lookup (p ++ rest) = data.lookup rest := by
  induction p generalizing t with
  | nil => rfl
  | cons s p ih =>
      rw [setAt, List.cons_append, lookup_object_cons, Keyed.get?_insert_self]
      exact ih _

theorem lookup_setAt_self (data : Json) (p : List String) (t : Json) :
    (setAt data p t).lookup p = some data := by
  simpa [lookup] using lookup_setAt_append data p [] t

theorem lookup_setAt_above (data : Json) (q : List String) (s : String) (rest : List String)
    (t : Json) : ∃ ms, (setAt data (q ++ s :: rest) t).lookup q = some (.object ms) := by
  induction q generalizing t with
  | nil => exact ⟨_, rfl⟩
  | cons k q ih =>
      obtain ⟨ms, hms⟩ := ih ((Keyed.get? k t.members).getD .null)
      refine ⟨ms, ?_⟩
      rw [List.cons_append, setAt, lookup_object_cons, Keyed.get?_insert_self]
      exact hms

theorem lookup_setAt_apart (data : Json) (h : Apart p q) :
    (setAt data p t).lookup q = t.lookup q := by
  induction p generalizing q t with
  | nil => exact absurd h (not_apart_nil q)
  | cons s p ih =>
      cases q with
      | nil => exact absurd h (not_apart_nil_right _)
      | cons k q =>
          rw [setAt, lookup_object_cons, lookup]
          by_cases hk : k = s
          · subst hk
            have hpq := apart_cons_self.1 h
            rw [Keyed.get?_insert_self]
            exact (ih hpq).trans (lookup_getD_null _ hpq.ne_nil)
          · rw [Keyed.get?_insert_of_ne hk]

theorem lookup_removeAt_append (ht : t.Ordered) (p rest : List String) :
    (removeAt p t).bind (lookup (p ++ rest)) = none := by
  induction p generalizing t with
  | nil => rfl
  | cons s p ih =>
      cases ht with
      | null | bool | number | text | list => rfl
      | @object ms hs hms =>
          rw [List.cons_append, removeAt_object, bind_lookup_ofMembers?,
            Keyed.get?_putBack_self hs]
          cases hc : Keyed.get? s ms with
          | none => rfl
          | some child => exact ih (hms _ (Keyed.mem_of_get? hc))

theorem lookup_removeAt_apart (ht : t.Ordered) (h : Apart p q) :
    (removeAt p t).bind (lookup q) = t.lookup q := by
  induction p generalizing q t with
  | nil => exact absurd h (not_apart_nil q)
  | cons s p ih =>
      cases q with
      | nil => exact absurd h (not_apart_nil_right _)
      | cons k q =>
          cases ht with
          | null | bool | number | text | list => rfl
          | @object ms hs hms =>
              rw [removeAt_object, bind_lookup_ofMembers?, lookup_object_cons]
              by_cases hk : k = s
              · subst hk
                rw [Keyed.get?_putBack_self hs]
                cases hc : Keyed.get? k ms with
                | none => rfl
                | some child => exact ih (hms _ (Keyed.mem_of_get? hc)) (apart_cons_self.1 h)
              · rw [Keyed.get?_putBack_of_ne hk]

end Json

namespace Replica

/-- The laws of a put. Data is found at its path, with objects all the way to it; a null leaves
nothing there, and at the root it leaves null; nothing apart from the path changes. -/
theorem put_lookup {r : Replica} (hr : r.value.Ordered) (path : String) (data : Json) :
    let p := pathSegments path
    let after := (r.put path data).value
    (data ≠ .null → after.lookup p = some data ∧
      ∀ q, q <+: p → q ≠ p → ∃ ms, after.lookup q = some (.object ms)) ∧
    (data = .null → (p = [] → after = .null) ∧ (p ≠ [] → after.lookup p = none)) ∧
      ∀ q, Apart p q → after.lookup q = r.value.lookup q := by
  intro p after
  by_cases hd : data = .null
  · have hafter : after = (r.value.removeAt p).getD .null := by simp [after, p, put, putAt, hd]
    refine ⟨fun h => absurd hd h, fun _ => ⟨fun hp => ?_, fun hp => ?_⟩, fun q hq => ?_⟩
    · rw [hafter, hp]
      rfl
    · rw [hafter, Json.lookup_getD_null _ hp]
      simpa using Json.lookup_removeAt_append hr p []
    · have hne : q ≠ [] := fun hnil => not_apart_nil_right p (hnil ▸ hq)
      rw [hafter, Json.lookup_getD_null _ hne, Json.lookup_removeAt_apart hr hq]
  · have hafter : after = Json.setAt data p r.value := by simp [after, p, put, putAt, hd]
    refine ⟨fun _ => ⟨?_, fun q hq hne => ?_⟩, fun h => absurd h hd, fun q hq => ?_⟩
    · rw [hafter, Json.lookup_setAt_self]
    · obtain ⟨rest, hrest⟩ := hq
      cases rest with
      | nil => exact absurd (by simpa using hrest) hne
      | cons s rest =>
          rw [hafter, ← hrest]
          exact Json.lookup_setAt_above data q s rest r.value
    · rw [hafter, Json.lookup_setAt_apart data hq]

/-- A number on the way gives way to an object, and an object that a deletion empties goes with the
members above it that it leaves empty. -/
theorem put_lookup_replaced_pruned : ∃ r : Replica, r.value.Ordered ∧
    (r.value.lookup ["a", "b"] = some (.number (.whole 5)) ∧
      (r.put "/a//b/c/" (.bool true)).value.lookup ["a", "b", "c"] = some (.bool true) ∧
      (∃ ms, (r.put "/a//b/c/" (.bool true)).value.lookup ["a", "b"] = some (.object ms)) ∧
      (r.put "/a//b/c/" (.bool true)).value.lookup ["d", "e"] = some (.object [])) ∧
    (r.put "a/b" .null).value.lookup ["a", "b"] = none ∧
      (r.put "a/b" .null).value.lookup ["a"] = none ∧ (r.put "//" .null).value = .null := by
  let inner : Json := .object [("b", .number (.whole 5))]
  let other : Json := .object [("e", .object [])]
  let r : Replica := ⟨.object [("a", inner), ("d", other)]⟩
  have hinner : inner.Ordered :=
    .object (List.pairwise_singleton ..) (List.forall_mem_singleton.2 (.number _))
  have hempty : (Json.object []).Ordered := .object .nil (List.forall_mem_nil _)
  have hother : other.Ordered :=
    .object (List.pairwise_singleton ..) (List.forall_mem_singleton.2 hempty)
  have hr : r.value.Ordered :=
    .object (List.pairwise_cons.2 ⟨by decide, List.pairwise_singleton ..⟩)
      (List.forall_mem_cons.2 ⟨hinner, List.forall_mem_singleton.2 hother⟩)
  have hwritten : pathSegments "/a//b/c/" = ["a", "b", "c"] := by decide +kernel
  have hdeleted : pathSegments "a/b" = ["a", "b"] := by decide +kernel
  have hroot : pathSegments "//" = [] := by decide +kernel
  obtain ⟨hdata, -, hapart⟩ := put_lookup hr "/a//b/c/" (.bool true)
  obtain ⟨-, hnull, -⟩ := put_lookup hr "a/b" .null
  obtain ⟨-, hrootNull, -⟩ := put_lookup hr "//" .null
  rw [hwritten] at hdata hapart
  rw [hdeleted] at hnull
  obtain ⟨hself, habove⟩ := hdata (by simp)
  refine ⟨r, hr, ⟨rfl, hself, habove ["a", "b"] ⟨["c"], rfl⟩ (by simp), ?_⟩, ?_, ?_, ?_⟩
  · exact (hapart ["d", "e"] (by simp [Apart])).trans rfl
  · exact (hnull rfl).2 (by simp)
  · decide +kernel
  · exact (hrootNull rfl).1 hroot

end Replica

end LiveTree
