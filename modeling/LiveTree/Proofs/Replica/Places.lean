import LiveTree.Proofs.Replica.Order

namespace LiveTree

/-- Neither of two paths leads to the other's end. -/
def Apart (p q : List String) : Prop :=
  ¬ p <+: q ∧ ¬ q <+: p

instance (p q : List String) : Decidable (Apart p q) :=
  inferInstanceAs (Decidable (_ ∧ _))

theorem not_apart_nil (q : List String) : ¬ Apart [] q :=
  fun h => h.1 (List.nil_prefix ..)

theorem not_apart_nil_right (p : List String) : ¬ Apart p [] :=
  fun h => h.2 (List.nil_prefix ..)

theorem apart_cons_self {s : String} {p q : List String} : Apart (s :: p) (s :: q) ↔ Apart p q := by
  simp [Apart, List.cons_prefix_cons]

theorem Apart.symm {p q : List String} (h : Apart p q) : Apart q p :=
  ⟨h.2, h.1⟩

theorem Apart.ne_nil {p q : List String} (h : Apart p q) : q ≠ [] :=
  fun hq => not_apart_nil_right p (hq ▸ h)

theorem apart_append_self (p : List String) {q rest : List String} :
    Apart (p ++ q) (p ++ rest) ↔ Apart q rest := by
  induction p with
  | nil => rfl
  | cons s p ih => exact apart_cons_self.trans ih

namespace Keyed

variable {α : Type}

theorem get?_putBack_self {key : String} {ms : Keyed Json} (h : ms.Sorted) (left : Option Json) :
    get? key (Json.putBack key ms left) = left := by
  cases left with
  | none => exact get?_erase_self key h
  | some left => exact get?_insert_self key left ms

theorem get?_putBack_of_ne {key other : String} (h : other ≠ key) (ms : Keyed Json)
    (left : Option Json) : get? other (Json.putBack key ms left) = get? other ms := by
  cases left with
  | none => exact get?_erase_of_ne h ms
  | some left => exact get?_insert_of_ne h left ms

theorem sorted_putBack {ms : Keyed Json} (h : ms.Sorted) (key : String) (left : Option Json) :
    Sorted (Json.putBack key ms left) := by
  cases left with
  | none => exact sorted_erase key h
  | some left => exact sorted_insert key left h

theorem putBack_putBack {ms : Keyed Json} (h : ms.Sorted) (key : String)
    (left other : Option Json) :
    Json.putBack key (Json.putBack key ms other) left = Json.putBack key ms left := by
  have ho := sorted_putBack h key other
  refine ext (sorted_putBack ho key left) (sorted_putBack h key left) fun k => ?_
  by_cases hk : k = key
  · rw [hk, get?_putBack_self ho, get?_putBack_self h]
  · rw [get?_putBack_of_ne hk, get?_putBack_of_ne hk, get?_putBack_of_ne hk]

theorem putBack_comm {ms : Keyed Json} (h : ms.Sorted) {key other : String} (hne : key ≠ other)
    (x y : Option Json) : Json.putBack key (Json.putBack other ms y) x =
      Json.putBack other (Json.putBack key ms x) y := by
  have hx := sorted_putBack h key x
  have hy := sorted_putBack h other y
  refine ext (sorted_putBack hy key x) (sorted_putBack hx other y) fun k => ?_
  by_cases hk : k = key
  · subst hk
    rw [get?_putBack_self hy, get?_putBack_of_ne hne, get?_putBack_self h]
  · rw [get?_putBack_of_ne hk]
    by_cases ho : k = other
    · rw [ho, get?_putBack_self h, get?_putBack_self hx]
    · rw [get?_putBack_of_ne ho, get?_putBack_of_ne ho, get?_putBack_of_ne hk]

end Keyed

namespace Json

/-- The children of a value: the members of an object, or the items of a list by their indices. -/
def children : Json → Keyed Json
  | .object ms => ms
  | .list xs => xs.mapIdx fun i x => (toString i, x)
  | _ => []

def find : List String → Json → Option Json
  | [], node => some node
  | s :: rest, node => Keyed.get? s node.children >>= find rest

/-- A path leads through a list, which is found at some steps of it. -/
def ThroughList (t : Json) (p steps : List String) : Prop :=
  ∃ rest xs, p = steps ++ rest ∧ rest ≠ [] ∧ t.lookup steps = some (.list xs)

/-- The steps to the first list on the way along a path, if there is one before its end. -/
def listOnWay? : List String → Json → Option (List String)
  | [], _ => none
  | _ :: _, .list _ => some []
  | s :: rest, node => (Keyed.get? s node.members >>= listOnWay? rest).map (s :: ·)

variable {p q steps : List String} {t : Json}

/-- A deletion in an object is one in the member that the path leads into, if there is one. -/
theorem removeAt_object (s : String) (p : List String) (ms : Keyed Json) :
    removeAt (s :: p) (.object ms) =
      ofMembers? (putBack s ms (Keyed.get? s ms >>= removeAt p)) := by
  simp only [removeAt]
  cases hc : Keyed.get? s ms with
  | none => exact congrArg ofMembers? (Keyed.erase_of_get? hc).symm
  | some child => rfl

theorem find_null (h : q ≠ []) : Json.null.find q = none := by
  cases q with
  | nil => exact absurd rfl h
  | cons s rest => rfl

theorem listOnWay?_null (p : List String) : Json.null.listOnWay? p = none := by
  cases p <;> rfl

theorem list_or_members (t : Json) : (∃ xs, t = .list xs) ∨ t.children = t.members ∧
    ∀ s rest, t.listOnWay? (s :: rest) =
      (Keyed.get? s t.members >>= listOnWay? rest).map (s :: ·) := by
  cases t with
  | list xs => exact .inl ⟨xs, rfl⟩
  | null | bool | number | text | object => exact .inr ⟨rfl, fun _ _ => rfl⟩

theorem listOnWay?_eq_some_iff : t.listOnWay? p = some steps ↔ t.ThroughList p steps := by
  induction p generalizing t steps with
  | nil => simp [listOnWay?, ThroughList, eq_comm, List.append_eq_nil_iff]
  | cons s p ih =>
      obtain ⟨xs, rfl⟩ | ⟨-, hl⟩ := t.list_or_members
      · constructor
        · rintro ⟨⟩
          exact ⟨s :: p, xs, rfl, List.cons_ne_nil _ _, rfl⟩
        · rintro ⟨rest, ys, hp, -, hb⟩
          cases steps with
          | nil => rfl
          | cons k steps => simp [lookup, members, Keyed.get?] at hb
      · rw [hl, Option.map_eq_some_iff]
        constructor
        · rintro ⟨steps, hb, rfl⟩
          obtain ⟨child, hc, hb⟩ := Option.bind_eq_some_iff.1 hb
          obtain ⟨rest, xs, rfl, hne, hx⟩ := ih.1 hb
          refine ⟨rest, xs, rfl, hne, ?_⟩
          rw [lookup, hc]
          exact hx
        · rintro ⟨rest, xs, hp, hne, hb⟩
          cases steps with
          | nil =>
              obtain rfl := Option.some.inj hb
              exact absurd (hl s p) (by simp [listOnWay?, members, Keyed.get?])
          | cons k steps =>
              obtain ⟨rfl, rfl⟩ := List.cons.inj hp
              obtain ⟨child, hc, hb⟩ := Option.bind_eq_some_iff.1 hb
              exact ⟨steps, Option.bind_eq_some_iff.2 ⟨child, hc, ih.2 ⟨rest, xs, rfl, hne, hb⟩⟩, rfl⟩

theorem find_object_cons (ms : Keyed Json) (s : String) (q : List String) :
    (object ms).find (s :: q) = Keyed.get? s ms >>= find q :=
  rfl

theorem bind_ofMembers? (ms : Keyed Json) (s : String) (q : List String) :
    (ofMembers? ms).bind (find (s :: q)) = Keyed.get? s ms >>= find q := by
  cases ms <;> rfl

theorem any_isPrefixOf_map_cons (o : Option (List String)) (s k : String) (q : List String) :
    (o.map (s :: ·)).any (·.isPrefixOf (k :: q)) = (s == k && o.any (·.isPrefixOf q)) := by
  cases o <;> simp [List.isPrefixOf]

/-- A write drops the items of a list that is on its way, and all other places apart from its own
stay as they are. -/
theorem find_setAt (data : Json) (h : Apart p q) :
    (setAt data p t).find q =
      if (t.listOnWay? p).any (·.isPrefixOf q) then none else t.find q := by
  induction p generalizing q t with
  | nil => exact absurd h (not_apart_nil q)
  | cons s p ih =>
      cases q with
      | nil => exact absurd h (not_apart_nil_right _)
      | cons k q =>
          rw [setAt, find_object_cons]
          by_cases hk : k = s
          · subst hk
            have hpq := apart_cons_self.1 h
            have hnull : (setAt data p .null).find q = none := by
              rw [ih hpq, listOnWay?_null, find_null hpq.ne_nil]
              rfl
            rw [Keyed.get?_insert_self]
            obtain ⟨xs, rfl⟩ | ⟨hc, hl⟩ := t.list_or_members
            · exact hnull
            · rw [hl, any_isPrefixOf_map_cons, find, hc]
              cases hg : Keyed.get? k t.members with
              | none => simpa using hnull
              | some child => simpa using ih (t := child) hpq
          · rw [Keyed.get?_insert_of_ne hk]
            obtain ⟨xs, rfl⟩ | ⟨hc, hl⟩ := t.list_or_members
            · rfl
            · have hks : (s == k) = false := beq_false_of_ne (Ne.symm hk)
              rw [hl, any_isPrefixOf_map_cons, hks, find, hc]
              rfl

theorem removeAt_of_listOnWay? (ht : t.Ordered) (h : t.listOnWay? p = some steps) :
    removeAt p t = some t := by
  induction p generalizing t steps with
  | nil => simp [listOnWay?] at h
  | cons s p ih =>
      cases ht with
      | null | bool | number | text | list => rfl
      | @object ms hs hms =>
          simp only [listOnWay?, members, Option.map_eq_some_iff] at h
          obtain ⟨steps, hb, -⟩ := h
          obtain ⟨child, hc, hb⟩ := Option.bind_eq_some_iff.1 hb
          have hmem := Keyed.mem_of_get? hc
          have hchild : (Keyed.get? s ms >>= removeAt p) = some child := by
            rw [hc]
            exact ih (hms _ hmem) hb
          rw [removeAt_object, hchild, putBack, Keyed.insert_of_get? hs hc]
          cases ms with
          | nil => simp at hmem
          | cons m ms => rfl

theorem find_removeAt (ht : t.Ordered) (hl : t.listOnWay? p = none) (h : Apart p q) :
    (removeAt p t).bind (find q) = t.find q := by
  induction p generalizing q t with
  | nil => exact absurd h (not_apart_nil q)
  | cons s p ih =>
      cases q with
      | nil => exact absurd h (not_apart_nil_right _)
      | cons k q =>
          cases ht with
          | null | bool | number | text | list => rfl
          | @object ms hs hms =>
              simp only [listOnWay?, members, Option.map_eq_none_iff] at hl
              rw [removeAt_object, bind_ofMembers?, find_object_cons]
              by_cases hk : k = s
              · subst hk
                rw [Keyed.get?_putBack_self hs]
                cases hc : Keyed.get? k ms with
                | none => rfl
                | some child =>
                    rw [hc] at hl
                    exact ih (hms _ (Keyed.mem_of_get? hc)) hl (apart_cons_self.1 h)
              · rw [Keyed.get?_putBack_of_ne hk]

theorem find_removeAt_self (ht : t.Ordered) (hl : t.listOnWay? p = none) :
    (removeAt p t).bind (find p) = none := by
  induction p generalizing t with
  | nil => rfl
  | cons s p ih =>
      cases ht with
      | null | bool | number | text => rfl
      | list => simp [listOnWay?] at hl
      | @object ms hs hms =>
          simp only [listOnWay?, members, Option.map_eq_none_iff] at hl
          rw [removeAt_object, bind_ofMembers?, Keyed.get?_putBack_self hs]
          cases hc : Keyed.get? s ms with
          | none => rfl
          | some child =>
              rw [hc] at hl
              exact ih (hms _ (Keyed.mem_of_get? hc)) hl

end Json

end LiveTree
