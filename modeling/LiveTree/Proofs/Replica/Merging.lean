import LiveTree.Proofs.Replica.Overwriting

namespace LiveTree

namespace Json

variable {p : List String} {t x : Json}

/-- An object of some members; the database has no empty objects, and null stands for one. -/
def ofMembers (ms : Keyed Json) : Json :=
  (ofMembers? ms).getD .null

def membersAt (p : List String) (t : Json) : Keyed Json :=
  ((t.lookup p).getD .null).members

def HoldsObject (t : Json) (p : List String) : Prop :=
  ∃ ms, t.lookup p = some (.object ms)

def changeMember (ms : Keyed Json) (c : String × Json) : Keyed Json :=
  if c.2 = .null then Keyed.erase c.1 ms else Keyed.insert c.1 c.2 ms

def changeMembers (ms changes : Keyed Json) : Keyed Json :=
  changes.foldl changeMember ms

theorem ofMembers_of_ne {ms : Keyed Json} (h : ms ≠ []) : ofMembers ms = .object ms := by
  cases ms with
  | nil => exact absurd rfl h
  | cons m ms => rfl

theorem removeAt_singleton (s : String) (ms : Keyed Json) :
    removeAt [s] (.object ms) = ofMembers? (Keyed.erase s ms) := by
  rw [removeAt_object]
  cases Keyed.get? s ms <;> rfl

theorem changeMember_of_ne (ms : Keyed Json) {c : String × Json} (h : c.2 ≠ .null) :
    changeMember ms c = Keyed.insert c.1 c.2 ms :=
  if_neg h

theorem changeMember_ne_nil (ms : Keyed Json) {c : String × Json} (h : c.2 ≠ .null) :
    changeMember ms c ≠ [] := by
  rw [changeMember_of_ne ms h]
  exact List.ne_nil_of_mem (Keyed.mem_insert_self ..)

theorem changeMember_eq (ms : Keyed Json) (c : String × Json) :
    changeMember ms c = putBack c.1 ms (if c.2 = .null then none else some c.2) := by
  rw [changeMember]
  split <;> rfl

theorem get?_changeMember_of_ne {key : String} {c : String × Json} (h : key ≠ c.1)
    (ms : Keyed Json) : Keyed.get? key (changeMember ms c) = Keyed.get? key ms := by
  rw [changeMember_eq, Keyed.get?_putBack_of_ne h]

theorem get?_changeMember_self {ms : Keyed Json} (h : ms.Sorted) (c : String × Json) :
    Keyed.get? c.1 (changeMember ms c) = if c.2 = .null then none else some c.2 := by
  rw [changeMember_eq, Keyed.get?_putBack_self h]

theorem sorted_changeMember {ms : Keyed Json} (h : ms.Sorted) (c : String × Json) :
    (changeMember ms c).Sorted := by
  rw [changeMember_eq]
  exact Keyed.sorted_putBack h c.1 _

theorem membersAt_cons (s : String) (p : List String) (t : Json) :
    membersAt (s :: p) t = membersAt p ((Keyed.get? s t.members).getD .null) := by
  rw [membersAt, membersAt, getD_null_lookup]
  rfl

theorem sorted_membersAt (ht : t.Ordered) (p : List String) : (membersAt p t).Sorted := by
  rw [membersAt]
  cases hx : t.lookup p with
  | none => exact .nil
  | some x => exact (ht.lookup hx).members.1

theorem membersAt_of_not_holdsObject (h : ¬ t.HoldsObject p) : membersAt p t = [] := by
  rw [membersAt]
  cases hx : t.lookup p with
  | none => rfl
  | some x =>
      cases x with
      | object ms => exact absurd ⟨ms, hx⟩ h
      | null | bool | number | text | list => rfl

theorem membersAt_null (p : List String) : membersAt p .null = [] := by
  cases p <;> rfl

/-- Where a place has no members, a deletion at it or below it leaves it without any. -/
theorem membersAt_removeAt (ht : t.Ordered) (h : membersAt p t = []) (q : List String) :
    membersAt p ((removeAt (p ++ q) t).getD .null) = [] := by
  induction p generalizing t with
  | nil =>
      have hmembers : t.members = [] := h
      cases q with
      | nil => rfl
      | cons k q =>
          cases t with
          | object ms =>
              obtain rfl : ms = [] := hmembers
              rfl
          | null | bool | number | text | list => rfl
  | cons s p ih =>
      cases ht with
      | null | bool | number | text | list => exact h
      | @object ms hs hms =>
          rw [membersAt_cons] at h
          rw [List.cons_append, removeAt_object, membersAt_cons, members_ofMembers?,
            Keyed.get?_putBack_self hs]
          cases hc : Keyed.get? s ms with
          | none => exact membersAt_null p
          | some child =>
              refine ih (hms _ (Keyed.mem_of_get? hc)) ?_
              simpa [members, hc] using h

theorem get?_changeMembers {ms changes : Keyed Json} (h : ms.Sorted) (hd : changes.keys.Nodup)
    (key : String) : Keyed.get? key (changeMembers ms changes) =
      (Keyed.get? key changes).elim (Keyed.get? key ms)
        fun x => if x = .null then none else some x := by
  induction changes generalizing ms with
  | nil => rfl
  | cons c changes ih =>
      obtain ⟨hc, hd⟩ := List.nodup_cons.1 hd
      rw [changeMembers, List.foldl_cons]
      refine (ih (sorted_changeMember h c) hd).trans ?_
      by_cases hk : key = c.1
      · subst hk
        rw [(Keyed.get?_eq_none_iff _ _).2 hc, Option.elim_none, get?_changeMember_self h]
        simp [Keyed.get?]
      · rw [get?_changeMember_of_ne hk]
        simp [Keyed.get?, hk]

end Json

namespace Replica

open Json

variable {r : Replica} {p : List String} {c : String × Json}

/-- To put a member is to put the changed members in the place of those that are there. -/
theorem putAt_member (h : r.value.HoldsObject p ∨ c.2 ≠ .null) :
    r.putAt (p ++ [c.1]) c.2 =
      r.putAt p (ofMembers (changeMember (membersAt p r.value) c)) := by
  by_cases hc : c.2 = .null
  · obtain ⟨ms, hms⟩ := h.resolve_right fun hne => hne hc
    have hmembers : changeMember (membersAt p r.value) c = Keyed.erase c.1 ms := by
      rw [changeMember, if_pos hc, membersAt, hms]
      rfl
    rw [hmembers, hc, putAt, if_pos rfl, removeAt_append hms, removeAt_singleton]
    cases hleft : Keyed.erase c.1 ms with
    | nil => rfl
    | cons m left => rfl
  · rw [ofMembers_of_ne (changeMember_ne_nil _ hc), changeMember_of_ne _ hc, putAt, if_neg hc,
      putAt, if_neg (by simp), setAt_append]
    rfl

theorem membersAt_putAt_of_ne {ms : Keyed Json} (h : ms ≠ []) (r : Replica) (p : List String) :
    membersAt p (r.putAt p (ofMembers ms)).value = ms := by
  rw [ofMembers_of_ne h, value_putAt_of_ne (by simp), membersAt, lookup_setAt_self]
  rfl

theorem membersAt_putAt_null (hr : r.value.Ordered) (p : List String) :
    membersAt p (r.putAt p .null).value = [] := by
  rw [value_putAt_null, membersAt]
  cases p with
  | nil => rfl
  | cons s p =>
      have hnone : (r.value.removeAt (s :: p)).bind (lookup (s :: p)) = none := by
        simpa using lookup_removeAt_append hr (s :: p) []
      rw [lookup_getD_null _ (List.cons_ne_nil s p), hnone]
      rfl

/-- Where some members of an object have been put in its place, to put one more of them is to put
the changed members instead. -/
theorem putAt_member_behind (hr : r.value.Ordered) (h : r.value.HoldsObject p) (ms : Keyed Json)
    (c : String × Json) : (r.putAt p (ofMembers ms)).putAt (p ++ [c.1]) c.2 =
      r.putAt p (ofMembers (changeMember ms c)) := by
  obtain ⟨o, ho⟩ := h
  by_cases hms : ms = []
  · subst hms
    by_cases hc : c.2 = .null
    · -- the object is gone already, and so is the member
      have hgone : changeMember [] c = [] := by rw [changeMember, if_pos hc, Keyed.erase]
      rw [hgone, hc, show ofMembers [] = .null from rfl, putAt, if_pos rfl, value_putAt_null,
        removeAt_removeAt hr]
      simp [putAt]
    · rw [putAt_member (.inr hc), show ofMembers [] = .null from rfl, membersAt_putAt_null hr,
        putAt_putAt hr ho]
  · have hholds : (r.putAt p (ofMembers ms)).value.HoldsObject p := by
      rw [ofMembers_of_ne hms, value_putAt_of_ne (by simp)]
      exact ⟨ms, lookup_setAt_self _ _ _⟩
    rw [putAt_member (.inl hholds), membersAt_putAt_of_ne hms, putAt_putAt hr ho]

def putMembers (r : Replica) (p : List String) (changes : Keyed Json) : Replica :=
  changes.foldl (fun r c => r.putAt (p ++ [c.1]) c.2) r

theorem putMembers_behind (hr : r.value.Ordered) (h : r.value.HoldsObject p)
    (ms changes : Keyed Json) : (r.putAt p (ofMembers ms)).putMembers p changes =
      r.putAt p (ofMembers (changeMembers ms changes)) := by
  induction changes generalizing ms with
  | nil => rfl
  | cons c changes ih =>
      rw [putMembers, List.foldl_cons, putAt_member_behind hr h]
      exact ih (changeMember ms c)

theorem putMembers_of_holdsObject {changes : Keyed Json} (hr : r.value.Ordered)
    (h : r.value.HoldsObject p) (hc : changes ≠ []) : r.putMembers p changes =
      r.putAt p (ofMembers (changeMembers (membersAt p r.value) changes)) := by
  cases changes with
  | nil => exact absurd rfl hc
  | cons c changes =>
      rw [putMembers, List.foldl_cons, putAt_member (.inl h)]
      exact putMembers_behind hr h _ changes

/-- At a place without members, a null among the changes has no effect on what the others make. -/
theorem putMembers_of_membersAt_nil {changes : Keyed Json} (hr : r.value.Ordered)
    (h : membersAt p r.value = []) (hm : changeMembers [] changes ≠ []) :
    r.putMembers p changes = r.putAt p (.object (changeMembers [] changes)) := by
  induction changes generalizing r with
  | nil => exact absurd rfl hm
  | cons c changes ih =>
      by_cases hc : c.2 = .null
      · have hsame : changeMembers [] (c :: changes) = changeMembers [] changes := by
          rw [changeMembers, List.foldl_cons, changeMember, if_pos hc, Keyed.erase, changeMembers]
        rw [hsame] at hm ⊢
        have hvalue : (r.putAt (p ++ [c.1]) c.2).value =
            (r.value.removeAt (p ++ [c.1])).getD .null := by rw [hc, value_putAt_null]
        have hordered : (r.putAt (p ++ [c.1]) c.2).value.Ordered :=
          ordered_putAt hr (hc ▸ .null) _
        have hmembers : membersAt p (r.putAt (p ++ [c.1]) c.2).value = [] :=
          hvalue ▸ membersAt_removeAt hr h [c.1]
        refine (ih hordered hmembers hm).trans ?_
        rw [putAt, if_neg (by simp), hvalue, setAt_removeAt _ hr, putAt, if_neg (by simp)]
      · -- from the first member on that is not null, the place holds an object
        have hcons : changeMembers [] (c :: changes) =
          changeMembers (changeMember [] c) changes := rfl
        rw [hcons] at hm ⊢
        have hempty : (r.putAt p (.object [])).value.Ordered :=
          ordered_putAt hr (.object .nil (List.forall_mem_nil _)) p
        have hholds : (r.putAt p (.object [])).value.HoldsObject p := by
          rw [value_putAt_of_ne (by simp)]
          exact ⟨[], lookup_setAt_self _ _ _⟩
        have hover {ms : Keyed Json} (hms : ms ≠ []) : r.putAt p (ofMembers ms) =
            (r.putAt p (.object [])).putAt p (ofMembers ms) := by
          rw [ofMembers_of_ne hms]
          simp [putAt, setAt_setAt]
        rw [putMembers, List.foldl_cons, putAt_member (.inr hc), h,
          hover (changeMember_ne_nil [] hc), ← ofMembers_of_ne hm, hover hm]
        exact putMembers_behind hempty hholds _ changes

def IsStep (key : String) : Prop :=
  key ≠ "" ∧ '/' ∉ key.toList

theorem pathSegments_of_isStep {key : String} (h : IsStep key) : pathSegments key = [key] := by
  have hne : key.toList ≠ [] := fun hnil => h.1 (String.toList_eq_nil_iff.1 hnil)
  rw [pathSegments, Text.splitOn_of_not_mem h.2]
  simp [hne]

theorem patch_eq_putMembers (r : Replica) (path : String) {changes : Keyed Json}
    (hk : ∀ c ∈ changes, IsStep c.1) :
    r.patch path (.object changes) = r.putMembers (pathSegments path) changes := by
  have hwrites : changes.map (fun c => (pathSegments path ++ pathSegments c.1, c.2)) =
      changes.map fun c => (pathSegments path ++ [c.1], c.2) :=
    List.map_congr_left fun c hc => by rw [pathSegments_of_isStep (hk c hc)]
  have happly := r.apply_eq ⟨.patch, path, .object changes, none⟩
  simp only [Event.writes, hwrites, List.foldl_map] at happly
  exact happly

/-- A patch of an object with members is a put of the object they are merged into; where nothing is
left of an object, it is a put of null. -/
theorem patch_eq_put {r : Replica} (hr : r.value.Ordered) (path : String) {changes : Keyed Json}
    (hc : changes ≠ []) (hk : ∀ c ∈ changes, IsStep c.1) (hd : changes.keys.Nodup) :
    let p := pathSegments path
    let merged := changeMembers (membersAt p r.value) changes
    (∀ key, Keyed.get? key merged =
      (Keyed.get? key changes).elim (Keyed.get? key (membersAt p r.value))
        fun x => if x = .null then none else some x) ∧
    (merged ≠ [] → r.patch path (.object changes) = r.put path (.object merged)) ∧
      (merged = [] → r.value.HoldsObject p → r.patch path (.object changes) = r.put path .null) := by
  intro p merged
  refine ⟨get?_changeMembers (sorted_membersAt hr p) hd, fun hm => ?_, fun hm hholds => ?_⟩
  · rw [patch_eq_putMembers r path hk, put]
    by_cases hholds : r.value.HoldsObject p
    · rw [putMembers_of_holdsObject hr hholds hc, ofMembers_of_ne hm]
    · have hnil : membersAt p r.value = [] := membersAt_of_not_holdsObject hholds
      have hmerged : merged = changeMembers [] changes := by simp only [merged, hnil]
      rw [hmerged] at hm ⊢
      exact putMembers_of_membersAt_nil hr hnil hm
  · rw [patch_eq_putMembers r path hk, putMembers_of_holdsObject hr hholds hc]
    exact congrArg (fun ms => r.putAt p (ofMembers ms)) hm

/-- A null deletes the object that is being patched and all above it, before the next member builds
it up again. By itself it leaves nothing. -/
theorem patch_eq_put_rebuilt : ∃ r : Replica, r.value.Ordered ∧
    (r.put "/a/b/c" .null).value = .null ∧
    r.patch "/a/b" (.object [("c", .null), ("d", .bool true)]) =
      r.put "/a/b" (.object [("d", .bool true)]) ∧
    r.patch "/a/b" (.object [("c", .null)]) = r.put "/a/b" .null := by
  let inner : Json := .object [("c", .bool false)]
  let middle : Json := .object [("b", inner)]
  let r : Replica := ⟨.object [("a", middle)]⟩
  have hinner : inner.Ordered :=
    .object (List.pairwise_singleton ..) (List.forall_mem_singleton.2 (.bool _))
  have hmiddle : middle.Ordered :=
    .object (List.pairwise_singleton ..) (List.forall_mem_singleton.2 hinner)
  have hr : r.value.Ordered :=
    .object (List.pairwise_singleton ..) (List.forall_mem_singleton.2 hmiddle)
  have hp : pathSegments "/a/b" = ["a", "b"] := by decide +kernel
  have hstepC : IsStep "c" := ⟨by decide, by decide⟩
  have hstepD : IsStep "d" := ⟨by decide, by decide⟩
  obtain ⟨-, hrebuilt, -⟩ := @patch_eq_put r hr "/a/b" [("c", .null), ("d", .bool true)] (by simp)
    (List.forall_mem_cons.2 ⟨hstepC, List.forall_mem_singleton.2 hstepD⟩) (by decide)
  obtain ⟨-, -, hdeleted⟩ := @patch_eq_put r hr "/a/b" [("c", .null)] (by simp)
    (List.forall_mem_singleton.2 hstepC) (by decide)
  rw [hp] at hrebuilt hdeleted
  exact ⟨r, hr, by decide +kernel, hrebuilt (by decide +kernel),
    hdeleted (by decide +kernel) ⟨_, rfl⟩⟩

end Replica

end LiveTree
