import LiveTree.Proofs.Replica.Places

namespace LiveTree

namespace Json

/-- Data written at a path has changed nothing apart from it, and a null has deleted what was
there. -/
structure WroteOnly (p : List String) (data before after : Json) : Prop where
  kept : ∀ q, Apart p q → after.find q = before.find q
  gone : data = .null → (after.find p).getD .null = .null

variable {p q : List String} {t : Json}

theorem find_getD_null (o : Option Json) (h : q ≠ []) :
    (o.getD .null).find q = o.bind (find q) := by
  cases o with
  | none => exact find_null h
  | some u => rfl

theorem wroteOnly_setAt_iff {data : Json} (hd : data ≠ .null) :
    WroteOnly p data t (setAt data p t) ↔
      ∀ steps, t.listOnWay? p = some steps → ∀ q, Apart p q → steps <+: q → t.find q = none := by
  constructor
  · intro h steps hl q hq hs
    have hfind := h.kept q hq
    rw [find_setAt data hq, hl] at hfind
    simpa [List.isPrefixOf_iff_prefix.2 hs] using hfind.symm
  · intro h
    refine ⟨fun q hq => ?_, fun hnull => absurd hnull hd⟩
    rw [find_setAt data hq]
    split
    · next hany =>
        obtain ⟨steps, hl, hs⟩ := (Option.any_eq_true ..).1 hany
        exact (h steps hl q hq (List.isPrefixOf_iff_prefix.1 hs)).symm
    · rfl

theorem wroteOnly_removeAt_iff (ht : t.Ordered) :
    WroteOnly p .null t ((t.removeAt p).getD .null) ↔
      ∀ steps, t.listOnWay? p = some steps → (t.find p).getD .null = .null := by
  cases hl : t.listOnWay? p with
  | some steps =>
      rw [removeAt_of_listOnWay? ht hl]
      constructor
      · intro h _ _
        exact h.gone rfl
      · intro h
        exact ⟨fun q _ => rfl, fun _ => h steps rfl⟩
  | none =>
      refine iff_of_true ⟨fun q hq => ?_, fun _ => ?_⟩ (by simp)
      · have hne : q ≠ [] := fun hnil => not_apart_nil_right p (hnil ▸ hq)
        rw [find_getD_null _ hne, find_removeAt ht hl hq]
      · by_cases hne : p = []
        · subst hne
          rfl
        · rw [find_getD_null _ hne, find_removeAt_self ht hl]
          rfl

end Json

namespace Replica

/-- A single write is local exactly if its path leads through no list, or if it does but the write
is a null and nothing was at its end, or is no null and the list holds nothing besides its place. -/
theorem wroteOnly_apply_iff {r : Replica} {e : Event} {p : List String} {data : Json}
    (hr : r.value.Ordered) (he : e.writes = [(p, data)]) :
    Json.WroteOnly p data r.value (r.apply e).value ↔
      ∀ steps, r.value.ThroughList p steps →
        if data = .null then (r.value.find p).getD .null = .null
        else ∀ q, Apart p q → steps <+: q → r.value.find q = none := by
  rw [apply_of_writes he, putAt]
  simp only [← Json.listOnWay?_eq_some_iff]
  split
  · next hd =>
      subst hd
      exact Json.wroteOnly_removeAt_iff hr
  · next hd => exact Json.wroteOnly_setAt_iff hd

/-- Below a list, deleting what is not there is local. So is a write beside the list. -/
theorem wroteOnly_apply_beside : ∃ (events : List Event) (e f : Event) (p q : List String),
    let r := events.foldl apply new
    r.value.Ordered ∧ r.value.ThroughList p ["list"] ∧
      (e.writes = [(p, .null)] ∧ Json.WroteOnly p .null r.value (r.apply e).value) ∧
      (f.writes = [(q, .bool true)] ∧
        Json.WroteOnly q (.bool true) r.value (r.apply f).value) := by
  let items : List Json := [.bool true, .bool false]
  let data : Json := .object [("list", .list items)]
  let events : List Event := [⟨.put, "/", data, none⟩]
  let e : Event := ⟨.put, "/list/2/name", .null, none⟩
  let f : Event := ⟨.patch, "/", .object [("users/alice", .bool true)], none⟩
  have hitems : ∀ x ∈ items, x.Ordered :=
    List.forall_mem_cons.2 ⟨.bool true, List.forall_mem_singleton.2 (.bool false)⟩
  have hdata : data.Ordered :=
    .object (List.pairwise_singleton ..) (List.forall_mem_singleton.2 (.list hitems))
  have hordered : (events.foldl apply new).value.Ordered :=
    ordered_history (List.forall_mem_singleton.2 hdata)
  have he : e.writes = [(["list", "2", "name"], .null)] := by decide +kernel
  have hf : f.writes = [(["users", "alice"], .bool true)] := by decide +kernel
  have hlist : (events.foldl apply new).value.lookup ["list"] = some (.list items) := by
    decide +kernel
  refine ⟨events, e, f, ["list", "2", "name"], ["users", "alice"], hordered,
    ⟨["2", "name"], _, rfl, by simp, hlist⟩, ⟨he, ?_⟩, hf, ?_⟩
  · refine (wroteOnly_apply_iff hordered he).2 fun _ _ => ?_
    rw [if_pos rfl]
    decide +kernel
  · refine (wroteOnly_apply_iff hordered hf).2 ?_
    intro steps hs
    have hnone : (events.foldl apply new).value.listOnWay? ["users", "alice"] = none := by
      decide +kernel
    rw [← Json.listOnWay?_eq_some_iff, hnone] at hs
    exact nomatch hs

/-- A write to the first item of a list of two loses the second. -/
theorem not_wroteOnly_apply : ¬ ∀ (r : Replica) (e : Event) (p : List String) (data : Json),
    r.value.Ordered → e.writes = [(p, data)] →
      Json.WroteOnly p data r.value (r.apply e).value := by
  intro h
  let one : Json := .number (.whole 1)
  have hordered : (Json.list [one, one]).Ordered :=
    .list (List.forall_mem_cons.2 ⟨.number _, List.forall_mem_singleton.2 (.number _)⟩)
  have hwrote := h ⟨.list [one, one]⟩ ⟨.put, "/0", .bool true, none⟩ ["0"] (.bool true) hordered
    (by decide +kernel)
  have hkept := hwrote.kept ["1"] (by simp [Apart])
  revert hkept
  decide +kernel

end Replica

end LiveTree
