import LiveTree.Replica

namespace LiveTree

theorem filter_splitOn_of_all {sep : Char} {cs : List Char} (h : ∀ c ∈ cs, c = sep) :
    (Text.splitOn sep cs).filter (· ≠ []) = [] := by
  induction cs with
  | nil => rfl
  | cons c cs ih =>
      obtain rfl : c = sep := h c (List.mem_cons_self ..)
      have hs := Text.splitOn_append_sep c [] cs
      rw [List.nil_append] at hs
      rw [hs, List.filter_append, ih fun d hd => h d (List.mem_cons_of_mem _ hd)]
      rfl

theorem filter_splitOn_append_of_all {sep : Char} {ds : List Char} (h : ∀ c ∈ ds, c = sep)
    (cs : List Char) :
    (Text.splitOn sep (cs ++ ds)).filter (· ≠ []) = (Text.splitOn sep cs).filter (· ≠ []) := by
  cases ds with
  | nil => rw [List.append_nil]
  | cons d ds =>
      obtain rfl : d = sep := h d (List.mem_cons_self ..)
      rw [Text.splitOn_append_sep, List.filter_append,
        filter_splitOn_of_all fun c hc => h c (List.mem_cons_of_mem _ hc), List.append_nil]

theorem filter_splitOn_dropEndWhile (sep : Char) (cs : List Char) :
    (Text.splitOn sep (Text.dropEndWhile (· = sep) cs)).filter (· ≠ []) =
      (Text.splitOn sep cs).filter (· ≠ []) := by
  obtain ⟨ds, hc, hd⟩ := Text.exists_append_dropEndWhile (· = sep) cs
  generalize Text.dropEndWhile (· = sep) cs = front at hc ⊢
  rw [hc, filter_splitOn_append_of_all fun d hm => of_decide_eq_true (hd d hm)]

theorem pathSegments_memberPath (path key : String) :
    pathSegments (Replica.memberPath path key) = pathSegments path ++ pathSegments key := by
  rw [pathSegments, pathSegments, pathSegments, Replica.memberPath, String.toList_ofList,
    Text.splitOn_append_sep, List.filter_append, List.map_append, filter_splitOn_dropEndWhile]

/-- The places that an event writes, and the data for each: a patch writes each member of its data
below its path, and all else is written at the path itself. -/
def Event.writes (e : Event) : List (List String × Json) :=
  match e.kind, e.data with
  | .patch, .object ms => ms.map fun m => (pathSegments e.path ++ pathSegments m.1, m.2)
  | _, data => [(pathSegments e.path, data)]

theorem Replica.apply_eq (r : Replica) (e : Event) :
    r.apply e = e.writes.foldl (fun r w => r.putAt w.1 w.2) r := by
  obtain ⟨kind, path, data, snapshot⟩ := e
  cases kind with
  | put => rfl
  | patch =>
      cases data with
      | object ms =>
          simp only [apply, patch, Event.writes, List.foldl_map, put, pathSegments_memberPath]
      | null | bool | number | text | list => rfl

theorem Replica.apply_of_writes {e : Event} {p : List String} {data : Json}
    (h : e.writes = [(p, data)]) (r : Replica) : r.apply e = r.putAt p data := by
  rw [apply_eq, h]
  rfl

end LiveTree
