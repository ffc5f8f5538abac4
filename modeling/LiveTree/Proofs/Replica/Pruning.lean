import LiveTree.Proofs.Replica.Overwriting

namespace LiveTree

namespace Json

variable {p above rest : List String} {t x : Json}

/-- Nothing is at a place; at the root null says so. -/
def Vacant (t : Json) : List String → Prop
  | [] => t = .null
  | s :: rest => t.lookup (s :: rest) = none

/-- A place above another holds nothing that is not at the other or below it. -/
def EmptyWithout (t : Json) (p above : List String) : Prop :=
  ∀ q, above <+: q → Apart p q → t.lookup q = none

theorem vacant_getD {o : Option Json} (h : o.bind (lookup p) = none) :
    (o.getD .null).Vacant p := by
  cases p with
  | nil =>
      cases o with
      | none => rfl
      | some u => exact nomatch h
  | cons s p => exact (lookup_getD_null o (List.cons_ne_nil s p)).trans h

theorem removeAt_of_lookup_eq_none (ht : t.Ordered) (hc : t.isCanonical = true)
    (h : t.lookup p = none) : removeAt p t = some t := by
  induction p generalizing t with
  | nil => exact nomatch h
  | cons s p ih =>
      cases ht with
      | null | bool | number | text | list => rfl
      | @object ms hs hms =>
          obtain ⟨hne, hmembers⟩ := isCanonical_object_iff.1 hc
          have hsame : putBack s ms (Keyed.get? s ms >>= removeAt p) = ms := by
            cases hg : Keyed.get? s ms with
            | none => exact Keyed.erase_of_get? hg
            | some child =>
                have hm := Keyed.mem_of_get? hg
                rw [lookup_object_cons, hg] at h
                have hchild := ih (hms _ hm) (hmembers _ hm).2 h
                exact (congrArg (putBack s ms) hchild).trans (Keyed.insert_of_get? hs hg)
          rw [removeAt_object, hsame]
          cases ms with
          | nil => exact absurd rfl hne
          | cons m ms => rfl

/-- A deletion leaves of what stands above the place what it would leave of that by itself. -/
theorem bind_lookup_removeAt (ht : t.Ordered) (h : t.lookup above = some x) (rest : List String) :
    (removeAt (above ++ rest) t).bind (lookup above) = removeAt rest x := by
  rw [removeAt_append h]
  cases removeAt rest x with
  | none => simpa using lookup_removeAt_append ht above []
  | some left => exact lookup_setAt_self left above t

theorem removeAt_eq_none_iff (ht : t.Ordered) (h : t.lookup p = some x) :
    removeAt p t = none ↔ ∀ q, Apart p q → t.lookup q = none := by
  constructor
  · intro hnone q hq
    rw [← lookup_removeAt_apart ht hq, hnone]
    rfl
  · intro hempty
    induction p generalizing t with
    | nil => rfl
    | cons s p ih =>
        cases ht with
        | null | bool | number | text | list => simp [lookup, members, Keyed.get?] at h
        | @object ms hs hms =>
            obtain ⟨child, hg, h⟩ := Option.bind_eq_some_iff.1 h
            have hmember : Keyed.get? s ms = some child := hg
            have hchild : removeAt p child = none := by
              refine ih (hms _ (Keyed.mem_of_get? hmember)) h fun q hq => ?_
              have hq := hempty (s :: q) (apart_cons_self.2 hq)
              rwa [lookup_object_cons, hmember] at hq
            have hnil : putBack s ms (removeAt p child) = [] := by
              refine Keyed.ext (Keyed.sorted_putBack hs s _) .nil fun key => ?_
              by_cases hk : key = s
              · rw [hk, Keyed.get?_putBack_self hs, hchild]
                rfl
              · have hq := hempty [key] (by simp [Apart, hk, Ne.symm hk])
                rw [Keyed.get?_putBack_of_ne hk]
                cases hother : Keyed.get? key ms with
                | none => rfl
                | some y =>
                    rw [lookup_object_cons, hother] at hq
                    cases hq
            rw [removeAt_object, hmember]
            exact congrArg ofMembers? hnil

theorem exists_object_of_removeAt {s : String} {u : Json} (h : t.lookup (s :: rest) = some x)
    (hu : removeAt (s :: rest) t = some u) : ∃ ms, u = .object ms := by
  cases t with
  | object ms =>
      rw [removeAt_object] at hu
      exact ⟨_, (ofMembers?_eq_some hu).2⟩
  | null | bool | number | text | list => simp [lookup, members, Keyed.get?] at h

/-- What stands above a place that is deleted goes with it if it holds nothing else. Otherwise an
object stays. -/
theorem removeAt_above {s : String} (ht : t.Ordered) (h : t.lookup (above ++ s :: rest) = some x) :
    (t.EmptyWithout (above ++ s :: rest) above →
      ((removeAt (above ++ s :: rest) t).getD .null).Vacant above) ∧
    (¬ t.EmptyWithout (above ++ s :: rest) above →
      ∃ ms, ((removeAt (above ++ s :: rest) t).getD .null).lookup above = some (.object ms)) := by
  rw [lookup_append] at h
  obtain ⟨u, hu, hx⟩ := Option.bind_eq_some_iff.1 h
  have hempty : t.EmptyWithout (above ++ s :: rest) above ↔ removeAt (s :: rest) u = none := by
    rw [removeAt_eq_none_iff (ht.lookup hu) hx]
    constructor
    · intro he q hq
      have hnone := he (above ++ q) (List.prefix_append above q) ((apart_append_self above).2 hq)
      rwa [lookup_append, hu] at hnone
    · rintro hnone _ ⟨q, rfl⟩ hq
      rw [lookup_append, hu]
      exact hnone q ((apart_append_self above).1 hq)
  have hleft := bind_lookup_removeAt ht hu (s :: rest)
  refine ⟨fun he => vacant_getD (hleft.trans (hempty.1 he)), fun he => ?_⟩
  obtain ⟨left, hl⟩ := Option.ne_none_iff_exists'.1 (mt hempty.2 he)
  obtain ⟨ms, rfl⟩ := exists_object_of_removeAt hx hl
  obtain ⟨v, hv, hms⟩ := Option.bind_eq_some_iff.1 (hleft.trans hl)
  exact ⟨ms, by rw [hv]; exact hms⟩

end Json

namespace Replica

open Json

/-- A null that is put at a place keeps a value canonical. Where nothing is found it changes
nothing; else the place goes, with all below it and with those objects above it that hold nothing
else, and all other places stay. To put the null again changes nothing. -/
theorem put_null_prunes {r : Replica} (hr : r.value.Ordered) (hc : r.value.isCanonical = true)
    (path : String) :
    let p := pathSegments path
    let after := (r.put path .null).value
    after.isCanonical = true ∧
    (r.value.lookup p = none → after = r.value) ∧
    (∀ x, r.value.lookup p = some x →
      (∀ q, p <+: q → after.Vacant q) ∧
      (∀ q, Apart p q → after.lookup q = r.value.lookup q) ∧
      ∀ q, q <+: p → q ≠ p →
        (r.value.EmptyWithout p q → after.Vacant q) ∧
        (¬ r.value.EmptyWithout p q → ∃ ms, after.lookup q = some (.object ms))) ∧
    (r.put path .null).put path .null = r.put path .null := by
  intro p after
  have hafter : after = (r.value.removeAt p).getD .null := value_putAt_null r p
  refine ⟨(isCanonical_putAt_iff hc p .null).2 rfl, fun hnone => ?_, fun x hx => ?_, ?_⟩
  · rw [hafter, removeAt_of_lookup_eq_none hr hc hnone, Option.getD_some]
  · refine ⟨?_, fun q hq => lookup_putAt_apart hr hq .null, ?_⟩
    · rintro _ ⟨rest, rfl⟩
      exact hafter ▸ vacant_getD (lookup_removeAt_append hr p rest)
    · rintro q ⟨rest, hrest⟩ hne
      cases rest with
      | nil => exact absurd (by simpa using hrest) hne
      | cons s rest =>
          rw [← hrest] at hx
          rw [hafter, ← hrest]
          exact removeAt_above hr hx
  · rw [put, put, putAt, if_pos rfl, putAt, if_pos rfl]
    simpa using removeAt_removeAt hr p []

/-- Of two objects above a number the one goes that holds nothing else, and the other stays. -/
theorem put_null_prunes_inner : ∃ r : Replica, r.value.Ordered ∧ r.value.isCanonical = true ∧
    let after := (r.put "/a/b/c" .null).value
    after.isCanonical = true ∧ after.Vacant ["a", "b", "c"] ∧
    (r.value.EmptyWithout ["a", "b", "c"] ["a", "b"] ∧ after.Vacant ["a", "b"]) ∧
    (¬ r.value.EmptyWithout ["a", "b", "c"] ["a"] ∧ ∃ ms, after.lookup ["a"] = some (.object ms)) ∧
    after.lookup ["a", "d"] = r.value.lookup ["a", "d"] ∧
    (r.put "/a/d/e" .null).value = r.value := by
  let inner : Json := .object [("c", .number (.whole 5))]
  let outer : Json := .object [("b", inner), ("d", .bool true)]
  let r : Replica := ⟨.object [("a", outer)]⟩
  have hinner : inner.Ordered := .object (by decide) (List.forall_mem_singleton.2 (.number _))
  have houter : outer.Ordered :=
    .object (by decide) (List.forall_mem_cons.2 ⟨hinner, List.forall_mem_singleton.2 (.bool _)⟩)
  have hr : r.value.Ordered := .object (by decide) (List.forall_mem_singleton.2 houter)
  have hc : r.value.isCanonical = true := by decide +kernel
  have hpath : pathSegments "/a/b/c" = ["a", "b", "c"] := by decide +kernel
  have hemptied : r.value.EmptyWithout ["a", "b", "c"] ["a", "b"] := by
    rintro _ ⟨rest, rfl⟩ hq
    have hrest : Apart ["c"] rest := (apart_append_self ["a", "b"]).1 hq
    cases rest with
    | nil => exact absurd hrest (not_apart_nil_right _)
    | cons k rest =>
        have hk : k ≠ "c" := by
          rintro rfl
          exact not_apart_nil rest (apart_cons_self.1 hrest)
        simp [r, outer, inner, lookup, members, Keyed.get?, hk]
  have hkept : ¬ r.value.EmptyWithout ["a", "b", "c"] ["a"] := by
    intro he
    exact absurd (he ["a", "d"] (by decide) (by decide)) (by decide +kernel)
  obtain ⟨hcanonical, -, hfound, -⟩ := put_null_prunes hr hc "/a/b/c"
  obtain ⟨-, hsame, -, -⟩ := put_null_prunes hr hc "/a/d/e"
  rw [hpath] at hfound
  obtain ⟨hbelow, hbeside, habove⟩ := hfound (.number (.whole 5)) rfl
  exact ⟨r, hr, hc, hcanonical, hbelow _ (by decide),
    ⟨hemptied, (habove _ (by decide) (by decide)).1 hemptied⟩,
    ⟨hkept, (habove _ (by decide) (by decide)).2 hkept⟩, hbeside _ (by decide),
    hsame (by decide +kernel)⟩

end Replica

end LiveTree
