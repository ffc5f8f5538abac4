import LiveTree.Proofs.Positions
import LiveTree.Proofs.Session.Isolation

namespace LiveTree.Session

/-- What can happen in a session. -/
inductive Act where
  | connect (address : String) (settings : Settings)
  | perform (h : Nat) (op : Operation)
  | proceed (h : Nat) (m : Watch.Move)

def proceed (s : Session) (h : Nat) (m : Watch.Move) : Session :=
  match s.handles[h]? with
  | none => s
  | some x => s.setHandle h { x with watch := step x.watch m }

/-- A session, and for each of its handles the one that it was derived from, if it was. -/
structure Pedigree where
  session : Session
  parents : List (Option Nat)

namespace Pedigree

def start (n : Network) : Pedigree :=
  ⟨Session.start n, []⟩

def parentsAfter (w : Pedigree) (h : Nat) : Result → List (Option Nat)
  | .handle _ => w.parents ++ [some h]
  | _ => w.parents

def act (w : Pedigree) : Act → Pedigree
  | .connect address settings =>
      match w.session.connect address settings with
      | .ok s => ⟨s, w.parents ++ [none]⟩
      | .error _ => w
  | .perform h op =>
      let (r, s) := w.session.perform h op
      ⟨s, w.parentsAfter h r⟩
  | .proceed h m => ⟨w.session.proceed h m, w.parents⟩

def run (n : Network) (acts : List Act) : Pedigree :=
  acts.foldl act (start n)

end Pedigree

inductive Founds (parents : List (Option Nat)) : Nat → Nat → Prop
  | founder {root : Nat} (h : parents[root]? = some none) : Founds parents root root
  | derived {root parent k : Nat} (hp : Founds parents root parent)
      (h : parents[k]? = some (some parent)) : Founds parents root k

def Kin (parents : List (Option Nat)) (j k : Nat) : Prop :=
  ∃ root, Founds parents root j ∧ Founds parents root k

variable {parents : List (Option Nat)} {owners : List Nat} {count : Nat} {root j k h : Nat}
  {s t : Session} {x : Handle} {op : Operation} {r : Result}

theorem Founds.append (hf : Founds parents root k) (more : List (Option Nat)) :
    Founds (parents ++ more) root k := by
  induction hf with
  | founder h => exact .founder (getElem?_append_of_eq_some h more)
  | derived _ h ih => exact .derived ih (getElem?_append_of_eq_some h more)

theorem Founds.parents_root (hf : Founds parents root k) : parents[root]? = some none := by
  induction hf with
  | founder h => exact h
  | derived _ _ ih => exact ih

/-- Every handle comes down from a founder, whose client it has, and no two founders share one. -/
structure Related (parents : List (Option Nat)) (owners : List Nat) (count : Nat) : Prop where
  length : parents.length = owners.length
  bounded : ∀ k c : Nat, owners[k]? = some c → c < count
  inherits : ∀ k parent : Nat, parents[k]? = some (some parent) → owners[k]? = owners[parent]?
  founded : ∀ k < parents.length, ∃ root, Founds parents root k
  apart : ∀ j k : Nat, parents[j]? = some none → parents[k]? = some none →
    owners[j]? = owners[k]? → j = k

theorem related_start : Related [] [] 0 :=
  ⟨rfl, nofun, nofun, nofun, nofun⟩

theorem Related.exists_owner (hr : Related parents owners count) {p : Option Nat}
    (hk : parents[k]? = some p) : ∃ c, owners[k]? = some c :=
  ⟨_, List.getElem?_eq_getElem (hr.length ▸ (List.getElem?_eq_some_iff.1 hk).1)⟩

theorem Related.connect (hr : Related parents owners count) :
    Related (parents ++ [none]) (owners ++ [count]) (count + 1) := by
  refine ⟨by simp [hr.length], fun k c hk => ?_, fun k parent hk => ?_, fun k hk => ?_,
    fun j k hj hk he => ?_⟩
  · obtain hk | ⟨-, rfl⟩ := getElem?_concat_cases hk
    · exact Nat.lt_succ_of_lt (hr.bounded k c hk)
    · exact Nat.lt_succ_self _
  · obtain hk | ⟨-, hn⟩ := getElem?_concat_cases hk
    · obtain ⟨c, hc⟩ := hr.exists_owner hk
      have hparent := (hr.inherits k parent hk).symm.trans hc
      rw [getElem?_append_of_eq_some hc, getElem?_append_of_eq_some hparent]
    · exact nomatch hn
  · rw [List.length_append, List.length_singleton, Nat.lt_succ_iff_lt_or_eq] at hk
    obtain hk | rfl := hk
    · obtain ⟨root, hroot⟩ := hr.founded k hk
      exact ⟨root, hroot.append _⟩
    · exact ⟨parents.length, .founder (by simp)⟩
  · -- the client of the new founder is new, so that no older one can have it
    have hold {i : Nat} (hi : parents[i]? = some none) : (owners ++ [count])[i]? = owners[i]? ∧
        owners[i]? ≠ some count := by
      obtain ⟨c, hc⟩ := hr.exists_owner hi
      refine ⟨(getElem?_append_of_eq_some hc _).trans hc.symm, fun hcount => ?_⟩
      exact Nat.lt_irrefl _ (hr.bounded i count hcount)
    have hnew {i : Nat} (hi : i = parents.length) : (owners ++ [count])[i]? = some count := by
      rw [hi, hr.length]
      simp
    obtain hj | ⟨hj, -⟩ := getElem?_concat_cases hj <;>
      obtain hk | ⟨hk, -⟩ := getElem?_concat_cases hk
    · exact hr.apart j k hj hk ((hold hj).1.symm.trans (he.trans (hold hk).1))
    · exact absurd ((hold hj).1.symm.trans (he.trans (hnew hk))) (hold hj).2
    · exact absurd ((hold hk).1.symm.trans (he.symm.trans (hnew hj))) (hold hk).2
    · rw [hj, hk]

theorem Related.derive {c : Nat} (hr : Related parents owners count) (hh : owners[h]? = some c) :
    Related (parents ++ [some h]) (owners ++ [c]) count := by
  have hlast : (owners ++ [c])[owners.length]? = some c := by simp
  refine ⟨by simp [hr.length], fun k b hk => ?_, fun k parent hk => ?_, fun k hk => ?_,
    fun j k hj hk he => ?_⟩
  · obtain hk | ⟨-, rfl⟩ := getElem?_concat_cases hk
    · exact hr.bounded k b hk
    · exact hr.bounded h b hh
  · obtain hk | ⟨rfl, hn⟩ := getElem?_concat_cases hk
    · obtain ⟨b, hb⟩ := hr.exists_owner hk
      have hparent := (hr.inherits k parent hk).symm.trans hb
      rw [getElem?_append_of_eq_some hb, getElem?_append_of_eq_some hparent]
    · obtain rfl := Option.some.inj hn
      rw [hr.length, hlast, getElem?_append_of_eq_some hh]
  · rw [List.length_append, List.length_singleton, Nat.lt_succ_iff_lt_or_eq] at hk
    obtain hk | rfl := hk
    · obtain ⟨root, hroot⟩ := hr.founded k hk
      exact ⟨root, hroot.append _⟩
    · have hl : h < parents.length := hr.length ▸ (List.getElem?_eq_some_iff.1 hh).1
      obtain ⟨root, hroot⟩ := hr.founded h hl
      exact ⟨root, .derived (hroot.append _) (by simp)⟩
  · obtain hj | ⟨-, hn⟩ := getElem?_concat_cases hj
    · obtain hk | ⟨-, hn⟩ := getElem?_concat_cases hk
      · obtain ⟨a, ha⟩ := hr.exists_owner hj
        obtain ⟨b, hb⟩ := hr.exists_owner hk
        rw [getElem?_append_of_eq_some ha, getElem?_append_of_eq_some hb] at he
        exact hr.apart j k hj hk (ha.trans (he.trans hb.symm))
      · exact nomatch hn
    · exact nomatch hn

theorem Related.owner_root (hr : Related parents owners count) (hf : Founds parents root k) :
    owners[k]? = owners[root]? := by
  induction hf with
  | founder => rfl
  | derived _ h ih => exact (hr.inherits _ _ h).trans ih

theorem Related.kin_iff (hr : Related parents owners count) (hj : j < parents.length)
    (hk : k < parents.length) : Kin parents j k ↔ owners[j]? = owners[k]? := by
  constructor
  · rintro ⟨root, hrj, hrk⟩
    rw [hr.owner_root hrj, hr.owner_root hrk]
  · intro he
    obtain ⟨a, ha⟩ := hr.founded j hj
    obtain ⟨b, hb⟩ := hr.founded k hk
    obtain rfl : a = b := by
      refine hr.apart a b ha.parents_root hb.parents_root ?_
      rw [← hr.owner_root ha, ← hr.owner_root hb, he]
    exact ⟨a, ha, hb⟩

def clientIds (s : Session) : List Nat :=
  s.handles.map (·.client)

theorem clientIds_congr (hh : t.handles = s.handles) : t.clientIds = s.clientIds := by
  rw [clientIds, clientIds, hh]

theorem clientIds_set {y : Handle} (hx : s.handles[h]? = some x) (hc : y.client = x.client) :
    (s.handles.set h y).map (·.client) = s.clientIds := by
  have hid : s.clientIds[h]? = some x.client := by simp [clientIds, hx]
  obtain ⟨hl, he⟩ := List.getElem?_eq_some_iff.1 hid
  rw [List.map_set, hc, ← he]
  exact List.set_getElem_self hl

namespace Pedigree

def IsSound (w : Pedigree) : Prop :=
  Related w.parents w.session.clientIds w.session.budgets.length

theorem IsSound.effect {w : Pedigree} (hw : w.IsSound) (hx : w.session.handles[h]? = some x)
    (he : Effect w.session h x op r t) : IsSound ⟨t, w.parentsAfter h r⟩ := by
  have hparents (hr : r.number? = none) : w.parentsAfter h r = w.parents := by
    cases r with
    | handle n => exact nomatch hr
    | done | value | call | delivery | closed | failed | nothing | panicked | noHandle => rfl
  have howners (ho : t.clientIds = w.session.clientIds)
      (hb : t.budgets.length = w.session.budgets.length) (hr : r.number? = none) :
      IsSound ⟨t, w.parentsAfter h r⟩ := by
    rw [IsSound, hparents hr, ho, hb]
    exact hw
  cases he with
  | data _ hr hk => exact howners (clientIds_congr hk.handles) (congrArg _ hk.budgets) hr
  | allowance a hk => exact howners (clientIds_congr hk.handles) (congrArg _ hk.budgets) rfl
  | budget d hh hb => exact howners (clientIds_congr hh) (by simp [hb]) rfl
  | handle y _ _ hr hh hc _ hb =>
      refine howners ?_ (congrArg _ hb) hr
      rw [clientIds, hh, clientIds_set hx hc]
  | derived d hd hh hb =>
      have howner : w.session.clientIds[h]? = some x.client := by simp [clientIds, hx]
      have hnew : t.clientIds = w.session.clientIds ++ [x.client] := by
        rw [clientIds, hh, List.map_append]
        rfl
      rw [IsSound, hnew, hb]
      exact hw.derive howner

theorem IsSound.connect {w : Pedigree} {address : String} {settings : Settings} (hw : w.IsSound)
    (ht : w.session.connect address settings = .ok t) : IsSound ⟨t, w.parents ++ [none]⟩ := by
  obtain ⟨x, hc, -, -, -, hh, hb⟩ := exists_handle_of_connect ht
  have howners : t.clientIds = w.session.clientIds ++ [w.session.budgets.length] := by
    rw [clientIds, hh, List.map_append, budgets, List.length_map, ← hc]
    rfl
  have hbudgets : t.budgets.length = w.session.budgets.length + 1 := by rw [hb]; simp
  rw [IsSound, howners, hbudgets]
  exact Related.connect hw

theorem IsSound.act {w : Pedigree} (hw : w.IsSound) (a : Act) : (w.act a).IsSound := by
  cases a with
  | connect address settings =>
      delta Pedigree.act
      dsimp only
      cases ht : w.session.connect address settings with
      | ok t => exact hw.connect ht
      | error f => exact hw
  | perform h op =>
      change IsSound ⟨(w.session.perform h op).2, w.parentsAfter h (w.session.perform h op).1⟩
      cases hx : w.session.target? h op with
      | none =>
          rw [perform_of_none hx]
          exact hw
      | some x => exact hw.effect (target?_eq_some hx) (perform_effect hx)
  | proceed h m =>
      change IsSound ⟨w.session.proceed h m, w.parents⟩
      rw [proceed]
      cases hx : w.session.handles[h]? with
      | none => exact hw
      | some x =>
          have howners : (w.session.setHandle h { x with watch := step x.watch m }).clientIds =
            w.session.clientIds := clientIds_set hx rfl
          rw [IsSound, howners]
          exact hw

theorem isSound_run (n : Network) (acts : List Act) : (run n acts).IsSound := by
  have hfold (w : Pedigree) (hw : w.IsSound) : (acts.foldl Pedigree.act w).IsSound := by
    induction acts generalizing w with
    | nil => exact hw
    | cons a acts ih => exact ih (w.act a) (hw.act a)
  exact hfold (start n) related_start

end Pedigree

def option? : Derivation → Option (String × String)
  | .child _ => none
  | .orderBy key => some ("orderBy", (Json.text key).compact)
  | .equalTo j => some ("equalTo", j.compact)
  | .startAt j => some ("startAt", j.compact)
  | .endAt j => some ("endAt", j.compact)
  | .limitToFirst n => some ("limitToFirst", toString n)
  | .limitToLast n => some ("limitToLast", toString n)

theorem query_derive (l : Location) (d : Derivation) :
    (l.derive d).query = (option? d).elim l.query fun o => l.query.set o.1 o.2 := by
  cases d with
  | child path =>
      rw [Location.derive, Location.child]
      split <;> rfl
  | orderBy | equalTo | startAt | endAt | limitToFirst | limitToLast => rfl

/-- What an operation at a handle has done to the handles of a session, and what it has left alone. -/
structure Isolated (parents : List (Option Nat)) (s : Session) (h : Nat) (op : Operation)
    (r : Result) (t : Session) : Prop where
  /-- All other handles stay as they are: their addresses, their query options, their watches. -/
  others : ∀ k < s.handles.length, k ≠ h → t.handles[k]? = s.handles[k]?
  /-- An operation on data leaves the handle that it is made at as it is, whatever it comes to. -/
  data : op.exchange?.isSome = true → h < s.handles.length → t.handles[h]? = s.handles[h]?
  /-- There is a new handle exactly if the operation derives one. -/
  derives : ∀ n, r = .handle n ↔
    n = s.handles.length ∧ ∃ x d, s.handle? h = some x ∧ Derives s x op d
  /-- It has a copy of the query options of the one that it was derived from, with the option that
  was asked for, and an idle watch. -/
  fresh : ∀ x d, s.handle? h = some x → Derives s x op d → ∃ y, t.handles = s.handles ++ [y] ∧
    t.phase? s.handles.length = some .idle ∧
      y.location.query = (option? d).elim x.location.query fun o => x.location.query.set o.1 o.2
  /-- Otherwise there are the handles that there were. -/
  length : (∀ n, r ≠ .handle n) → t.handles.length = s.handles.length
  /-- A budget that is set is the budget of the whole family, and of nobody else. -/
  budget : ∀ d, op = .setTimeout d → (s.handle? h).isSome = true → ∀ k, (s.handle? k).isSome = true →
    (Kin parents h k → t.timeout? k = some d) ∧ (¬ Kin parents h k → t.timeout? k = s.timeout? k)
  /-- Nothing else changes a budget. -/
  budgets : (∀ d, op ≠ .setTimeout d) → ∀ k < s.handles.length, (t.handle? k).isSome = true →
    t.timeout? k = s.timeout? k

theorem handle?_of_getElem? (hk : t.handles[k]? = s.handles[k]?) : t.handle? k = s.handle? k := by
  rw [handle?, handle?, hk]

theorem timeout?_of_getElem? (hk : t.handles[k]? = s.handles[k]?) (hb : t.budgets = s.budgets) :
    t.timeout? k = s.timeout? k := by
  rw [timeout?_eq, timeout?_eq, handle?_of_getElem? hk, hb]

theorem Effect.getElem?_of_ne (he : Effect s h x op r t) (hk : k < s.handles.length) (hne : k ≠ h) :
    t.handles[k]? = s.handles[k]? := by
  cases he with
  | data _ _ hkeeps | allowance _ hkeeps => rw [hkeeps.handles]
  | budget _ hh => rw [hh]
  | handle _ _ _ _ hh => rw [hh, List.getElem?_set_ne (Ne.symm hne)]
  | derived _ _ hh => rw [hh, List.getElem?_append_left hk]

theorem Effect.getElem?_of_exchange (he : Effect s h x op r t) (hx : s.handles[h]? = some x)
    (hop : op.exchange?.isSome = true) : t.handles[h]? = s.handles[h]? := by
  cases he with
  | data _ _ hkeeps => rw [hkeeps.handles]
  | allowance | budget => exact nomatch hop
  | handle _ hnone => exact absurd hop (by simp [hnone])
  | derived _ _ hh => rw [hh, List.getElem?_append_left (List.getElem?_eq_some_iff.1 hx).1]

theorem Effect.length_handles (he : Effect s h x op r t) (hr : ∀ n, r ≠ .handle n) :
    t.handles.length = s.handles.length := by
  cases he with
  | data _ _ hkeeps | allowance _ hkeeps => rw [hkeeps.handles]
  | budget _ hh => rw [hh]
  | handle _ _ _ _ hh => rw [hh, List.length_set]
  | derived => exact absurd rfl (hr _)

theorem Effect.timeout?_eq (he : Effect s h x op r t) (hx : s.handles[h]? = some x)
    (hop : ∀ d, op ≠ .setTimeout d) (hk : k < s.handles.length)
    (ht : (t.handle? k).isSome = true) : t.timeout? k = s.timeout? k := by
  cases he with
  | data _ _ hkeeps | allowance _ hkeeps =>
      exact timeout?_of_getElem? (by rw [hkeeps.handles]) hkeeps.budgets
  | budget d => exact absurd rfl (hop d)
  | handle y _ _ _ hh hc hd hb =>
      by_cases hkh : k = h
      · subst hkh
        have hy : t.handles[k]? = some y := by rw [hh, List.getElem?_set_self hk]
        have hleft : y.dropped = false := by
          obtain ⟨z, hz⟩ := Option.isSome_iff_exists.1 ht
          obtain ⟨hget, hz⟩ := handle?_eq_some.1 hz
          obtain rfl := Option.some.inj (hy.symm.trans hget)
          exact hz
        have hthere : x.dropped = false := Bool.eq_false_iff.2 fun hx => by simp [hd hx] at hleft
        rw [timeout?_eq, timeout?_eq, handle?_eq_some.2 ⟨hy, hleft⟩,
          handle?_eq_some.2 ⟨hx, hthere⟩, hb]
        exact congrArg (s.budgets[·]?) hc
      · exact timeout?_of_getElem? (by rw [hh, List.getElem?_set_ne (Ne.symm hkh)]) hb
  | derived _ _ hh hb => exact timeout?_of_getElem? (by rw [hh, List.getElem?_append_left hk]) hb

theorem timeout?_of_budget {d : Span} (hw : Related parents s.clientIds s.budgets.length)
    (hx : s.handles[h]? = some x) (hh : t.handles = s.handles)
    (hb : t.budgets = s.budgets.modify x.client fun _ => d) (hk : (s.handle? k).isSome = true) :
    (Kin parents h k → t.timeout? k = some d) ∧
      (¬ Kin parents h k → t.timeout? k = s.timeout? k) := by
  obtain ⟨y, hy⟩ := Option.isSome_iff_exists.1 hk
  have hyk := (handle?_eq_some.1 hy).1
  have hidh : s.clientIds[h]? = some x.client := by simp [clientIds, hx]
  have hidk : s.clientIds[k]? = some y.client := by simp [clientIds, hyk]
  have hkin : Kin parents h k ↔ x.client = y.client := by
    have hh := (List.getElem?_eq_some_iff.1 hidh).1
    have hk := (List.getElem?_eq_some_iff.1 hidk).1
    rw [hw.kin_iff (hw.length ▸ hh) (hw.length ▸ hk), hidh, hidk, Option.some.injEq]
  have hty : t.handle? k = some y := (handle?_of_getElem? (by rw [hh])).trans hy
  have hbound : y.client < s.budgets.length := hw.bounded k _ hidk
  rw [hkin, timeout?_eq, timeout?_eq, hty, hy, hb]
  constructor
  · intro he
    simp [he, hbound]
  · intro hne
    simp [List.getElem?_modify, hne]

theorem ne_of_derives {d : Derivation} (hx : s.target? h op = none) (hd : Derives s x op d) :
    s.handle? h ≠ some x := by
  cases hd <;> exact fun hh => nomatch hx.symm.trans hh

theorem isolated_of_none (hx : s.target? h op = none) : Isolated parents s h op .noHandle s where
  others _ _ _ := rfl
  data _ _ := rfl
  derives _ := ⟨nofun, fun ⟨_, _, _, hh, hd⟩ => absurd hh (ne_of_derives hx hd)⟩
  fresh _ _ hh hd := absurd hh (ne_of_derives hx hd)
  length _ := rfl
  budget d hop hh := by
    subst hop
    exact absurd (show s.handle? h = none from hx) (Option.isSome_iff_ne_none.1 hh)
  budgets _ _ _ _ := rfl

theorem phase?_derived {d : Derivation} (hh : t.handles = s.handles ++ [derived x d]) :
    t.phase? s.handles.length = some .idle := by
  have hy : t.handle? s.handles.length = some (derived x d) :=
    handle?_eq_some.2 ⟨by rw [hh]; simp, rfl⟩
  rw [phase?, hy]
  rfl

theorem isolated_of_effect (hw : Related parents s.clientIds s.budgets.length)
    (hx : s.target? h op = some x) (he : Effect s h x op r t)
    (hderived : ∀ x d, s.handle? h = some x → Derives s x op d →
      r = .handle s.handles.length ∧ t.handles = s.handles ++ [derived x d]) :
    Isolated parents s h op r t where
  others _ hk hne := he.getElem?_of_ne hk hne
  data hop _ := he.getElem?_of_exchange (target?_eq_some hx) hop
  derives n := by
    constructor
    · rintro rfl
      cases he with
      | data _ hne | handle _ _ _ hne => exact nomatch hne
      | derived d hd =>
          have hhandle : s.handle? h = some x := by cases hd <;> exact hx
          exact ⟨rfl, x, d, hhandle, hd⟩
    · rintro ⟨rfl, y, d, hy, hd⟩
      exact (hderived y d hy hd).1
  fresh y d hy hd := by
    have hhandles := (hderived y d hy hd).2
    exact ⟨_, hhandles, phase?_derived hhandles, query_derive y.location d⟩
  length hr := he.length_handles hr
  budget d hop _ k hk := by
    subst hop
    cases he with
    | data hop => exact nomatch hop
    | budget _ hh hb => exact timeout?_of_budget hw (target?_eq_some hx) hh hb hk
    | handle _ _ hset => exact nomatch hset
    | derived _ hd => exact nomatch hd
  budgets hop _ hk ht := he.timeout?_eq (target?_eq_some hx) hop hk ht

theorem timeout?_of_connect (hw : Related parents s.clientIds s.budgets.length)
    (hk : k < s.handles.length) (hh : t.handles = s.handles ++ [x]) {d : Span}
    (hb : t.budgets = s.budgets ++ [d]) :
    t.handles[k]? = s.handles[k]? ∧ t.timeout? k = s.timeout? k := by
  have hget : t.handles[k]? = s.handles[k]? := by rw [hh, List.getElem?_append_left hk]
  refine ⟨hget, ?_⟩
  rw [timeout?_eq, timeout?_eq, handle?_of_getElem? hget, hb]
  cases hy : s.handle? k with
  | none => rfl
  | some y =>
      have hid : s.clientIds[k]? = some y.client := by simp [clientIds, (handle?_eq_some.1 hy).1]
      exact List.getElem?_append_left (hw.bounded k _ hid)

/-- Whatever has happened before, an operation at a handle leaves all others as they are, and only a
budget that is set at a handle is seen at others, which are those of its family. A connection leaves
all handles as they are. -/
theorem handles_isolated (n : Network) (acts : List Act) :
    let w := Pedigree.run n acts
    (∀ h op, Isolated w.parents w.session h op (w.session.perform h op).1
      (w.session.perform h op).2) ∧
    ∀ address settings t, w.session.connect address settings = .ok t →
      t.phase? w.session.handles.length = some .idle ∧ ∀ k < w.session.handles.length,
        t.handles[k]? = w.session.handles[k]? ∧ t.timeout? k = w.session.timeout? k := by
  intro w
  have hw : w.IsSound := Pedigree.isSound_run n acts
  refine ⟨fun h op => ?_, fun address settings t ht => ?_⟩
  · cases hx : w.session.target? h op with
    | none =>
        rw [perform_of_none hx]
        exact isolated_of_none hx
    | some x =>
        exact isolated_of_effect hw hx (perform_effect hx) fun y d hy hd => perform_of_derives hy hd
  · obtain ⟨x, -, -, hwatch, hthere, hh, hb⟩ := exists_handle_of_connect ht
    have hx : t.handle? w.session.handles.length = some x :=
      handle?_eq_some.2 ⟨by rw [hh]; simp, hthere⟩
    refine ⟨?_, fun k hk => timeout?_of_connect hw hk hh hb⟩
    rw [phase?, hx, Option.map_some, hwatch]
    rfl

/-- Two families. A handle that has derived from another one pushes a value, and the new handle has
its options; a budget that is set at it is seen by its own family alone. -/
theorem handles_isolated_pushed :
    let answer : Answer :=
      ⟨200, [Text.Utf8.encode "\x7b\"name\":\"-k\"\x7d".toList], .closed, .utf8⟩
    let acts : List Act := [.connect "http://db.test" .default, .connect "http://other.test" .default,
      .perform 0 (.adjust (.auth "t")), .perform 0 (.derive (.limitToFirst 2))]
    let s := (Pedigree.run (.scripted [.answer answer]) acts).session
    let pushed := s.perform 2 (.push .null)
    let limited := s.perform 2 (.setTimeout (Span.ofMillis 5))
    s.handles.length = 3 ∧ pushed.1 = .handle 3 ∧ pushed.2.phase? 3 = some .idle ∧
      (∃ y, pushed.2.handles = s.handles ++ [y] ∧ y.location.query.toText = "auth=t&limitToFirst=2") ∧
      limited.2.timeout? 0 = some (Span.ofMillis 5) ∧
      limited.2.timeout? 1 = some Settings.default.timeout := by
  intro answer acts s pushed limited
  let x : Handle := (s.handle? 2).get (by decide +kernel)
  let c : Client := (s.clients[x.client]?).get (by decide +kernel)
  have hx : s.handle? 2 = some x := (Option.some_get _).symm
  have hc : s.clients[x.client]? = some c := (Option.some_get _).symm
  obtain ⟨hisolated, -⟩ := handles_isolated (.scripted [.answer answer]) acts
  have hsendable : (x.location.request .post Request.anything (s.userAgent x)
      (some (bodyOf .null))).toOption.any Request.isSendable = true := by decide +kernel
  have hnetwork : s.network = .scripted [.answer answer] := rfl
  obtain ⟨r, hr, ha⟩ := exists_answered (c := c) hnetwork hsendable (by decide +kernel)
    (by decide +kernel)
  have hderives : Derives s x (.push .null) (.child "-k") :=
    .push _ _ _ (execute_of_answered hc ha rfl rfl hr) (by decide +kernel)
  have hpush := hisolated 2 (.push .null)
  obtain ⟨y, hhandles, hphase, hquery⟩ := hpush.fresh x _ hx hderives
  have hbudget := (hisolated 2 (.setTimeout (Span.ofMillis 5))).budget _ rfl (by decide +kernel)
  have hfounds : Founds [none, none, some 0] 0 2 := .derived (.founder rfl) rfl
  have hstranger : ¬ Kin [none, none, some 0] 2 1 := by
    rintro ⟨root, htwo, hone⟩
    cases hone with
    | derived _ hone => exact nomatch hone
    | founder =>
        cases htwo with
        | derived hparent htwo =>
            obtain rfl := Option.some.inj (Option.some.inj htwo)
            cases hparent with
            | derived _ hzero => exact nomatch hzero
  refine ⟨by decide +kernel, (hpush.derives 3).2 ⟨by decide +kernel, x, _, hx, hderives⟩, hphase,
    ⟨y, hhandles, ?_⟩, (hbudget 0 (by decide +kernel)).1 ⟨0, hfounds, .founder rfl⟩, ?_⟩
  · rw [hquery]
    decide +kernel
  · exact ((hbudget 1 (by decide +kernel)).2 hstranger).trans (by decide +kernel)

end LiveTree.Session
