import LiveTree.Proofs.Replica.Merging

namespace LiveTree

namespace Json

/-- The data that a patch writes at its own path. Of several keys without a step the last counts. -/
def ownData? (changes : Keyed Json) : Option Json :=
  (changes.filter fun c => pathSegments c.1 = []).getLast?.map Prod.snd

theorem ownData?_cons (c : String × Json) (changes : Keyed Json) : ownData? (c :: changes) =
    if pathSegments c.1 = [] then some ((ownData? changes).getD c.2) else ownData? changes := by
  rw [ownData?, List.filter_cons]
  by_cases hc : pathSegments c.1 = []
  · simp only [hc, decide_true, if_true, List.getLast?_cons, ownData?]
    cases (changes.filter fun c => pathSegments c.1 = []).getLast? <;> rfl
  · simp only [hc, decide_false, Bool.false_eq_true, if_false, ownData?]

theorem apart_child {p q : List String} {name : String} (hq : q ≠ []) (h : q.head? ≠ some name) :
    Apart (p ++ q) (p ++ [name]) := by
  rw [apart_append_self]
  cases q with
  | nil => exact absurd rfl hq
  | cons s q =>
      have hs : s ≠ name := fun hs => h (congrArg some hs)
      simp [Apart, hs, Ne.symm hs]

end Json

namespace Replica

open Json

variable {r : Replica}

theorem lookup_putAt_child (hr : r.value.Ordered) (p : List String) (data : Json) (name : String) :
    (r.putAt p data).value.lookup (p ++ [name]) = data.lookup [name] := by
  by_cases hd : data = .null
  · rw [hd, value_putAt_null, lookup_getD_null _ (by simp), lookup_removeAt_append hr]
    rfl
  · rw [value_putAt_of_ne hd, lookup_setAt_append]

/-- A child that no key names keeps its value, unless the patch writes data at its own path: then
it is the child of that name in the data. -/
theorem lookup_patch_child (hr : r.value.Ordered) (path : String) {changes : Keyed Json}
    (hc : (Json.object changes).Ordered) {name : String}
    (hname : ∀ c ∈ changes, (pathSegments c.1).head? ≠ some name) :
    let child := pathSegments path ++ [name]
    (r.patch path (.object changes)).value.lookup child =
      (ownData? changes).elim (r.value.lookup child) (lookup [name]) := by
  intro child
  simp only [patch, put, pathSegments_memberPath]
  have hdata : ∀ c ∈ changes, c.2.Ordered := hc.members.2
  clear hc
  induction changes generalizing r with
  | nil => rfl
  | cons c changes ih =>
      obtain ⟨hfirst, hnames⟩ := List.forall_mem_cons.1 hname
      obtain ⟨hordered, hrest⟩ := List.forall_mem_cons.1 hdata
      rw [List.foldl_cons, ih (ordered_putAt hr hordered _) hnames hrest, ownData?_cons]
      by_cases hsteps : pathSegments c.1 = []
      · rw [if_pos hsteps, hsteps, List.append_nil, lookup_putAt_child hr]
        cases ownData? changes <;> rfl
      · rw [if_neg hsteps, lookup_putAt_apart hr (apart_child hsteps hfirst)]

/-- Beside a deletion that prunes, and behind a key that is nothing but slashes. -/
theorem lookup_patch_child_pruned : ∃ r : Replica, r.value.Ordered ∧
    (r.patch "/o/" (.object [("//m///n", .null)])).value.lookup ["o", "m"] = none ∧
    (r.patch "/o/" (.object [("//m///n", .null)])).value.lookup ["o", "k"] = some (.bool true) ∧
    (r.patch "o" (.object [("//", .object [("k", .text "")]), ("m/n", .null)])).value.lookup
      ["o", "k"] = some (.text "") := by
  let inner : Json := .object [("n", .bool false)]
  let outer : Json := .object [("k", .bool true), ("m", inner)]
  let r : Replica := ⟨.object [("o", outer)]⟩
  have hinner : inner.Ordered := .object (by decide) (List.forall_mem_singleton.2 (.bool _))
  have houter : outer.Ordered :=
    .object (by decide) (List.forall_mem_cons.2 ⟨.bool _, List.forall_mem_singleton.2 hinner⟩)
  have hr : r.value.Ordered := .object (by decide) (List.forall_mem_singleton.2 houter)
  let deep : Keyed Json := [("//m///n", .null)]
  let own : Keyed Json := [("//", .object [("k", .text "")]), ("m/n", .null)]
  have hdeep : (Json.object deep).Ordered :=
    .object (by decide) (List.forall_mem_singleton.2 .null)
  have hdata : (Json.object [("k", .text "")]).Ordered :=
    .object (by decide) (List.forall_mem_singleton.2 (.text _))
  have hown : (Json.object own).Ordered :=
    .object (by decide) (List.forall_mem_cons.2 ⟨hdata, List.forall_mem_singleton.2 .null⟩)
  have hkept := lookup_patch_child hr "/o/" hdeep (by decide +kernel : ∀ c ∈ deep,
    (pathSegments c.1).head? ≠ some "k")
  have hreplaced := lookup_patch_child hr "o" hown (by decide +kernel : ∀ c ∈ own,
    (pathSegments c.1).head? ≠ some "k")
  exact ⟨r, hr, by decide +kernel, hkept.trans (by decide +kernel),
    hreplaced.trans (by decide +kernel)⟩

/-- The empty key names no child, and what it brings replaces the whole object. -/
theorem not_lookup_patch_child : ¬ ∀ (r : Replica) (path : String) (changes : Keyed Json)
    (name : String), r.value.Ordered → r.value.HoldsObject (pathSegments path) →
      (Json.object changes).Ordered →
        (∀ c ∈ changes, (pathSegments c.1).head? ≠ some name) →
          (r.patch path (.object changes)).value.lookup (pathSegments path ++ [name]) =
            r.value.lookup (pathSegments path ++ [name]) := by
  intro h
  let one : Json := .number (.whole 1)
  have hr : (Json.object [("a", one)]).Ordered :=
    .object (by decide) (List.forall_mem_singleton.2 (.number _))
  have hc : (Json.object [("", one)]).Ordered :=
    .object (by decide) (List.forall_mem_singleton.2 (.number _))
  have hholds : (Json.object [("a", one)]).HoldsObject (pathSegments "/") :=
    ⟨[("a", one)], by decide +kernel⟩
  have hsame := h ⟨.object [("a", one)]⟩ "/" [("", one)] "a" hr hholds hc (by decide +kernel)
  revert hsame
  decide +kernel

end Replica

end LiveTree
