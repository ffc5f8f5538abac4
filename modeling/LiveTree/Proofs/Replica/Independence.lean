import LiveTree.Proofs.Replica.Overwriting

namespace LiveTree

namespace Json

variable {data other : Json} {p q : List String} {t : Json}

theorem ofMembers?_insert (key : String) (x : Json) (ms : Keyed Json) :
    ofMembers? (Keyed.insert key x ms) = some (.object (Keyed.insert key x ms)) := by
  have hne := List.ne_nil_of_mem (Keyed.mem_insert_self key x ms)
  cases hi : Keyed.insert key x ms with
  | nil => exact absurd hi hne
  | cons m ms => rfl

theorem bind_removeAt_ofMembers? (s : String) (p : List String) (ms : Keyed Json) :
    (ofMembers? ms).bind (removeAt (s :: p)) =
      ofMembers? (putBack s ms (Keyed.get? s ms >>= removeAt p)) := by
  cases ms with
  | nil => rfl
  | cons m ms => exact removeAt_object s p (m :: ms)

theorem members_removeAt (s : String) (p : List String) (t : Json) :
    ((removeAt (s :: p) t).getD .null).members =
      putBack s t.members (Keyed.get? s t.members >>= removeAt p) := by
  cases t with
  | object ms => rw [removeAt_object, members_ofMembers?, members]
  | null | bool | number | text | list => rfl

theorem getD_removeAt (o : Option Json) (p : List String) :
    (removeAt p (o.getD .null)).getD .null = (o >>= removeAt p).getD .null := by
  cases o with
  | none => exact removeAt_null p
  | some u => rfl

theorem setAt_comm (ht : t.Ordered) (h : Apart p q) :
    setAt data p (setAt other q t) = setAt other q (setAt data p t) := by
  induction p generalizing q t with
  | nil => exact absurd h (not_apart_nil q)
  | cons s p ih =>
      cases q with
      | nil => exact absurd h (not_apart_nil_right _)
      | cons k q =>
          rw [setAt, members_setAt, setAt, members_setAt]
          by_cases hk : k = s
          · subst hk
            have hchild := ih (ht.members.child k) (apart_cons_self.1 h)
            rw [Keyed.get?_insert_self, Keyed.get?_insert_self, Keyed.insert_insert,
              Keyed.insert_insert]
            exact congrArg (fun child => object (Keyed.insert k child t.members)) hchild
          · rw [Keyed.get?_insert_of_ne hk, Keyed.get?_insert_of_ne (Ne.symm hk)]
            exact congrArg object (Keyed.putBack_comm ht.members.1 (Ne.symm hk) (some _) (some _))

theorem removeAt_comm (ht : t.Ordered) (h : Apart p q) :
    (removeAt p t).bind (removeAt q) = (removeAt q t).bind (removeAt p) := by
  induction p generalizing q t with
  | nil => exact absurd h (not_apart_nil q)
  | cons s p ih =>
      cases q with
      | nil => exact absurd h (not_apart_nil_right _)
      | cons k q =>
          cases ht with
          | null | bool | number | text | list => rfl
          | @object ms hs hms =>
              rw [removeAt_object, removeAt_object, bind_removeAt_ofMembers?,
                bind_removeAt_ofMembers?]
              by_cases hk : k = s
              · subst hk
                rw [Keyed.get?_putBack_self hs, Keyed.get?_putBack_self hs,
                  Keyed.putBack_putBack hs, Keyed.putBack_putBack hs]
                cases hc : Keyed.get? k ms with
                | none => rfl
                | some child =>
                    have hchild := ih (hms _ (Keyed.mem_of_get? hc)) (apart_cons_self.1 h)
                    exact congrArg (fun left => ofMembers? (putBack k ms left)) hchild
              · rw [Keyed.get?_putBack_of_ne hk, Keyed.get?_putBack_of_ne (Ne.symm hk),
                  Keyed.putBack_comm hs hk]

theorem removeAt_setAt_apart (ht : t.Ordered) (h : Apart p q) :
    removeAt q (setAt data p t) = some (setAt data p ((removeAt q t).getD .null)) := by
  induction p generalizing q t with
  | nil => exact absurd h (not_apart_nil q)
  | cons s p ih =>
      cases q with
      | nil => exact absurd h (not_apart_nil_right _)
      | cons k q =>
          have hs := ht.members.1
          rw [setAt, setAt, removeAt_object, members_removeAt]
          by_cases hk : k = s
          · subst hk
            have hchild := ih (ht.members.child k) (apart_cons_self.1 h)
            rw [Keyed.get?_insert_self, Keyed.get?_putBack_self hs, insert_putBack k _ hs,
              ← getD_removeAt]
            refine Eq.trans (congrArg (fun left => ofMembers? (putBack k _ left)) hchild) ?_
            rw [putBack, Keyed.insert_insert, ofMembers?_insert]
          · rw [Keyed.get?_insert_of_ne hk, Keyed.get?_putBack_of_ne (Ne.symm hk)]
            refine Eq.trans (congrArg ofMembers? (Keyed.putBack_comm hs hk _ (some _))) ?_
            exact ofMembers?_insert s _ _

end Json

namespace Replica

open Json

variable {r : Replica} {p q : List String}

theorem putAt_comm (hr : r.value.Ordered) (h : Apart p q) (data other : Json) :
    (r.putAt p data).putAt q other = (r.putAt q other).putAt p data := by
  by_cases hd : data = .null <;> by_cases ho : other = .null
  · have hremoved := congrArg (Option.getD · .null) (removeAt_comm hr h)
    simpa [putAt, hd, ho, getD_removeAt] using hremoved
  · simp [putAt, hd, ho, removeAt_setAt_apart hr h.symm]
  · simp [putAt, hd, ho, removeAt_setAt_apart hr h]
  · simp [putAt, hd, ho, setAt_comm hr h]

/-- Data that is put at a place leaves nothing of what was put there or below before. -/
theorem putAt_putAt_below (hr : r.value.Ordered) {data : Json} (hd : data ≠ .null)
    (p rest : List String) (other : Json) :
    (r.putAt (p ++ rest) other).putAt p data = r.putAt p data := by
  by_cases ho : other = .null
  · simp [putAt, hd, ho, setAt_removeAt data hr]
  · simp [putAt, hd, ho, setAt_append other, setAt_setAt]

theorem foldl_putAt_perm {ws others : List (List String × Json)} (h : others.Perm ws)
    (hr : r.value.Ordered) (hd : ∀ w ∈ ws, w.2.Ordered)
    (ha : ws.Pairwise fun w v => Apart w.1 v.1) :
    others.foldl (fun r w => r.putAt w.1 w.2) r = ws.foldl (fun r w => r.putAt w.1 w.2) r := by
  induction h generalizing r with
  | nil => rfl
  | cons w _ ih =>
      obtain ⟨hw, hws⟩ := List.forall_mem_cons.1 hd
      exact ih (ordered_putAt hr hw w.1) hws (List.pairwise_cons.1 ha).2
  | swap w v ws =>
      obtain ⟨hwv, -⟩ := List.pairwise_cons.1 ha
      simp only [List.foldl_cons, putAt_comm hr (hwv v (List.mem_cons_self ..))]
  | trans _ hm ih₁ ih₂ =>
      have hmiddle := (hm.pairwise_iff fun hwv => hwv.symm).2 ha
      exact (ih₁ hr (fun w hw => hd w (hm.mem_iff.1 hw)) hmiddle).trans (ih₂ hr hd ha)

/-- Puts at places apart from each other may come in any order, and so may the members of a patch
that lead to such places. Of a put of data only the later one shows, at its place and below. -/
theorem puts_commute_or_absorb {r : Replica} (hr : r.value.Ordered) :
    (∀ (path other : String) (data otherData : Json),
      Apart (pathSegments path) (pathSegments other) →
        (r.put path data).put other otherData = (r.put other otherData).put path data) ∧
    (∀ (path : String) (changes order : Keyed Json), (Json.object changes).Ordered →
      (changes.Pairwise fun c d => Apart (pathSegments c.1) (pathSegments d.1)) →
        order.Perm changes → order.foldl (fun r c => r.put (memberPath path c.1) c.2) r =
          r.patch path (.object changes)) ∧
    ∀ (path other : String) (data otherData : Json),
      pathSegments path <+: pathSegments other → data ≠ .null →
        (r.put other otherData).put path data = r.put path data := by
  refine ⟨fun path other data otherData h => putAt_comm hr h data otherData, ?_, ?_⟩
  · intro path changes order hc ha hperm
    let write (c : String × Json) := (pathSegments path ++ pathSegments c.1, c.2)
    have hapart : (changes.map write).Pairwise fun w v => Apart w.1 v.1 :=
      List.pairwise_map.2 (ha.imp (apart_append_self _).2)
    have hdata : ∀ w ∈ changes.map write, w.2.Ordered := by
      intro w hw
      obtain ⟨c, hm, rfl⟩ := List.mem_map.1 hw
      exact hc.members.2 c hm
    have hwrites := foldl_putAt_perm (hperm.map write) hr hdata hapart
    simp only [write, List.foldl_map, ← pathSegments_memberPath] at hwrites
    exact hwrites
  · rintro path other data otherData ⟨rest, hrest⟩ hd
    rw [put, put, ← hrest]
    exact putAt_putAt_below hr hd _ rest otherData

/-- A null that deletes all there is, before or after a write beside it. -/
theorem puts_commute_or_absorb_pruned : ∃ (r : Replica) (changes : Keyed Json),
    r.value.Ordered ∧ (r.put "/a/b" .null).value = .null ∧
    (r.put "/a/b" .null).put "a//c" (.bool true) = (r.put "a//c" (.bool true)).put "/a/b" .null ∧
    changes.reverse.foldl (fun r c => r.put (memberPath "/a/" c.1) c.2) r =
      r.patch "/a/" (.object changes) ∧
    (r.put "/a/b/c" .null).put "/a/b" (.bool true) = r.put "/a/b" (.bool true) := by
  let inner : Json := .object [("b", .bool false)]
  let r : Replica := ⟨.object [("a", inner)]⟩
  let changes : Keyed Json := [("b", .null), ("c/d", .bool true), ("c/e", .null)]
  have hinner : inner.Ordered :=
    .object (List.pairwise_singleton ..) (List.forall_mem_singleton.2 (.bool _))
  have hr : r.value.Ordered :=
    .object (List.pairwise_singleton ..) (List.forall_mem_singleton.2 hinner)
  have hchanges : (Json.object changes).Ordered :=
    .object (by decide) (List.forall_mem_cons.2 ⟨.null, List.forall_mem_cons.2 ⟨.bool _,
      List.forall_mem_singleton.2 .null⟩⟩)
  have hapart : changes.Pairwise fun c d => Apart (pathSegments c.1) (pathSegments d.1) := by
    decide +kernel
  obtain ⟨hcomm, hpatch, habsorb⟩ := puts_commute_or_absorb hr
  exact ⟨r, changes, hr, by decide +kernel, hcomm _ _ _ _ (by decide +kernel),
    hpatch "/a/" changes _ hchanges hapart (List.reverse_perm changes),
    habsorb _ _ _ _ (by decide +kernel) (by simp)⟩

end Replica

end LiveTree
