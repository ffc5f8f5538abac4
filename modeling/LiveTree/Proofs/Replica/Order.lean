import LiveTree.Json.Reader
import LiveTree.Proofs.Replica.Writes

namespace LiveTree

namespace Json

/-- The members of every object, at any depth, are in the order of their keys. -/
inductive Ordered : Json → Prop
  | null : Ordered .null
  | bool (b : Bool) : Ordered (.bool b)
  | number (n : Number) : Ordered (.number n)
  | text (s : String) : Ordered (.text s)
  | list {xs : List Json} (h : ∀ x ∈ xs, Ordered x) : Ordered (.list xs)
  | object {ms : Keyed Json} (hs : ms.Sorted) (h : ∀ m ∈ ms, Ordered m.2) : Ordered (.object ms)

def OrderedMembers (ms : Keyed Json) : Prop :=
  ms.Sorted ∧ ∀ m ∈ ms, m.2.Ordered

theorem orderedMembers_nil : OrderedMembers [] :=
  ⟨.nil, List.forall_mem_nil _⟩

theorem OrderedMembers.insert {ms : Keyed Json} {x : Json} (h : OrderedMembers ms)
    (hx : x.Ordered) (key : String) : OrderedMembers (ms.insert key x) := by
  refine ⟨Keyed.sorted_insert key x h.1, fun m hm => ?_⟩
  obtain rfl | hm := Keyed.mem_insert hm
  · exact hx
  · exact h.2 m hm

theorem OrderedMembers.erase {ms : Keyed Json} (h : OrderedMembers ms) (key : String) :
    OrderedMembers (ms.erase key) :=
  ⟨Keyed.sorted_erase key h.1, fun m hm => h.2 m ((Keyed.erase_sublist key ms).mem hm)⟩

theorem OrderedMembers.child {ms : Keyed Json} (h : OrderedMembers ms) (key : String) :
    ((Keyed.get? key ms).getD .null).Ordered := by
  cases hg : Keyed.get? key ms with
  | none => exact .null
  | some x => exact h.2 _ (Keyed.mem_of_get? hg)

theorem Ordered.members {t : Json} (h : t.Ordered) : OrderedMembers t.members := by
  cases h with
  | null | bool | number | text | list => exact orderedMembers_nil
  | object hs h => exact ⟨hs, h⟩

theorem Ordered.setAt {data t : Json} (hd : data.Ordered) (ht : t.Ordered) (p : List String) :
    (setAt data p t).Ordered := by
  induction p generalizing t with
  | nil => exact hd
  | cons s p ih =>
      have hms := ht.members.insert (ih (ht.members.child s)) s
      exact .object hms.1 hms.2

theorem Ordered.ofMembers? {ms : Keyed Json} {u : Json} (h : OrderedMembers ms)
    (hu : ofMembers? ms = some u) : u.Ordered := by
  cases ms with
  | nil => simp [Json.ofMembers?] at hu
  | cons m ms =>
      obtain rfl := Option.some.inj hu
      exact .object h.1 h.2

theorem Ordered.removeAt {p : List String} {t u : Json} (ht : t.Ordered)
    (h : removeAt p t = some u) : u.Ordered := by
  induction p generalizing t u with
  | nil => simp [Json.removeAt] at h
  | cons s p ih =>
      cases ht with
      | null | bool | number | text => obtain rfl := Option.some.inj h; constructor
      | list hx => obtain rfl := Option.some.inj h; exact .list hx
      | @object ms hs hms =>
          simp only [Json.removeAt] at h
          split at h
          · exact Ordered.ofMembers? ⟨hs, hms⟩ h
          · next child hc =>
              refine Ordered.ofMembers? ?_ h
              cases hr : Json.removeAt p child with
              | none => exact OrderedMembers.erase ⟨hs, hms⟩ s
              | some left =>
                  have hleft := ih (hms _ (Keyed.mem_of_get? hc)) hr
                  exact OrderedMembers.insert ⟨hs, hms⟩ hleft s

section Reading

theorem bind_eq_ok {α β : Type} {x : Except Flaw α} {f : α → Except Flaw β} {b : β}
    (h : x >>= f = .ok b) : ∃ a, x = .ok a ∧ f a = .ok b := by
  cases x with
  | error e => exact nomatch h
  | ok a => exact ⟨a, rfl, h⟩

variable {fuel : Nat} {first : Bool} {item : Reader Json} {c c' : Cursor}

theorem ordered_readItems {out xs : List Json}
    (hitem : ∀ {c c' x}, item c = .ok (x, c') → x.Ordered) (hout : ∀ x ∈ out, x.Ordered)
    (h : readItems item fuel first out c = .ok (xs, c')) : ∀ x ∈ xs, x.Ordered := by
  induction fuel generalizing first out c with
  | zero => exact nomatch h
  | succ fuel ih =>
      obtain ⟨⟨more, c⟩, -, h⟩ := bind_eq_ok h
      cases more with
      | false =>
          obtain ⟨rfl, -⟩ := Prod.mk.inj (Except.ok.inj h)
          exact fun x hx => hout x (List.mem_reverse.1 hx)
      | true =>
          obtain ⟨⟨x, c⟩, hx, h⟩ := bind_eq_ok h
          exact ih (List.forall_mem_cons.2 ⟨hitem hx, hout⟩) h

theorem ordered_readMembers {out ms : Keyed Json}
    (hitem : ∀ {c c' x}, item c = .ok (x, c') → x.Ordered) (hout : OrderedMembers out)
    (h : readMembers item fuel first out c = .ok (ms, c')) : OrderedMembers ms := by
  induction fuel generalizing first out c with
  | zero => exact nomatch h
  | succ fuel ih =>
      obtain ⟨⟨more, c⟩, -, h⟩ := bind_eq_ok h
      cases more with
      | false =>
          obtain ⟨rfl, -⟩ := Prod.mk.inj (Except.ok.inj h)
          exact hout
      | true =>
          obtain ⟨⟨key, c⟩, -, h⟩ := bind_eq_ok h
          obtain ⟨⟨⟨⟩, c⟩, -, h⟩ := bind_eq_ok h
          obtain ⟨⟨x, c⟩, hx, h⟩ := bind_eq_ok h
          exact ih (hout.insert (hitem hx) key) h

theorem ordered_literal {rest : List UInt8} {j t : Json} (hj : j.Ordered)
    (h : literal rest j c = .ok (t, c')) : t.Ordered := by
  obtain ⟨_, -, h⟩ := bind_eq_ok h
  obtain ⟨rfl, -⟩ := Prod.mk.inj (Except.ok.inj h)
  exact hj

theorem ordered_readScalar {b : UInt8} {t : Json} (h : readScalar b c = .ok (t, c')) :
    t.Ordered := by
  simp only [readScalar] at h
  split at h
  · exact ordered_literal .null h
  split at h
  · exact ordered_literal (.bool true) h
  split at h
  · exact ordered_literal (.bool false) h
  split at h
  · obtain ⟨⟨n, c⟩, -, h⟩ := bind_eq_ok h
    obtain ⟨rfl, -⟩ := Prod.mk.inj (Except.ok.inj h)
    exact .number n
  split at h
  · obtain ⟨⟨s, c⟩, -, h⟩ := bind_eq_ok h
    obtain ⟨rfl, -⟩ := Prod.mk.inj (Except.ok.inj h)
    exact .text s
  · exact nomatch h

theorem enter_eq_ok {α : Type} {depth : Nat} {inside : Reader α} {r : α × Cursor}
    (h : enter depth inside c = .ok r) : inside c.next = .ok r := by
  simp only [enter] at h
  split at h
  · exact nomatch h
  · exact h

theorem ordered_readValue {depth : Nat} {t : Json} (h : readValue fuel depth c = .ok (t, c')) :
    t.Ordered := by
  induction depth generalizing c c' t with
  | zero =>
      simp only [readValue] at h
      split at h
      · exact nomatch h
      split at h
      · exact nomatch h
      · exact ordered_readScalar h
  | succ depth ih =>
      simp only [readValue] at h
      split at h
      · exact nomatch h
      split at h
      · obtain ⟨⟨xs, c⟩, hxs, h⟩ := bind_eq_ok h
        obtain ⟨rfl, -⟩ := Prod.mk.inj (Except.ok.inj h)
        exact .list (ordered_readItems ih (List.forall_mem_nil _) (enter_eq_ok hxs))
      split at h
      · obtain ⟨⟨ms, c⟩, hms, h⟩ := bind_eq_ok h
        obtain ⟨rfl, -⟩ := Prod.mk.inj (Except.ok.inj h)
        obtain ⟨hs, hx⟩ := ordered_readMembers ih orderedMembers_nil (enter_eq_ok hms)
        exact .object hs hx
      · exact ordered_readScalar h

/-- What is read from a text has its members in order, whatever their order in the text. -/
theorem ordered_ofBytes {bytes : List UInt8} {t : Json} (h : ofBytes bytes = .ok t) :
    t.Ordered := by
  simp only [ofBytes, readWhole] at h
  split at h
  · exact nomatch h
  next x c hread =>
  split at h
  · exact nomatch h
  · obtain rfl := Except.ok.inj h
    exact ordered_readValue hread

end Reading

end Json

theorem Event.ordered_writes {e : Event} (h : e.data.Ordered) : ∀ w ∈ e.writes, w.2.Ordered := by
  obtain ⟨kind, path, data, snapshot⟩ := e
  cases kind with
  | put => exact List.forall_mem_singleton.2 h
  | patch =>
      cases data with
      | object ms =>
          intro w hw
          obtain ⟨m, hm, rfl⟩ := List.mem_map.1 hw
          exact h.members.2 m hm
      | null | bool | number | text | list => exact List.forall_mem_singleton.2 h

namespace Replica

theorem ordered_putAt {r : Replica} {data : Json} (hr : r.value.Ordered) (hd : data.Ordered)
    (p : List String) : (r.putAt p data).value.Ordered := by
  rw [putAt]
  split
  · cases hu : r.value.removeAt p with
    | none => exact .null
    | some u => exact hr.removeAt hu
  · exact hd.setAt hr p

theorem ordered_apply {r : Replica} {e : Event} (hr : r.value.Ordered) (he : e.data.Ordered) :
    (r.apply e).value.Ordered := by
  rw [apply_eq]
  have hw := e.ordered_writes he
  generalize e.writes = ws at hw
  induction ws generalizing r with
  | nil => exact hr
  | cons w ws ih =>
      obtain ⟨hw, hws⟩ := List.forall_mem_cons.1 hw
      exact ih (ordered_putAt hr hw w.1) hws

theorem ordered_history {events : List Event} (h : ∀ e ∈ events, e.data.Ordered) :
    (events.foldl apply new).value.Ordered := by
  have hfold (r : Replica) (hr : r.value.Ordered) : (events.foldl apply r).value.Ordered := by
    induction events generalizing r with
    | nil => exact hr
    | cons e events ih =>
        obtain ⟨he, hevents⟩ := List.forall_mem_cons.1 h
        exact ih hevents (r.apply e) (ordered_apply hr he)
  exact hfold new .null

end Replica

end LiveTree
