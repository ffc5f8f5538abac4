import LiveTree.Proofs.Positions
import LiveTree.Traffic

namespace LiveTree

/-- Dials of the same request, begun at the same time, which differ only if their budgets do. -/
structure Dial.Alike (d e : Dial) : Prop where
  request : d.request = e.request
  started : d.started = e.started
  eq : d.budget = e.budget → d = e

theorem Dial.Alike.refl (d : Dial) : d.Alike d :=
  ⟨rfl, rfl, fun _ => rfl⟩

theorem Dial.Alike.finish {d e : Dial} (h : d.Alike e) (now : Instant) (ending : DialEnding) :
    (d.finish now ending).Alike (e.finish now ending) :=
  ⟨h.request, h.started, fun hb => by rw [h.eq hb]⟩

namespace Traffic

variable {t u v w : Traffic} {m : Move} {moves others : List Move} {r : Nat}

def dialsOf (t : Traffic) (request : Nat) : List Dial :=
  t.dials.filter (·.request = request)

def limitsOf (t : Traffic) (request : Nat) : List Span :=
  (t.dialsOf request).map (·.budget)

/-- The budgets in force when moves begin dials for a request. -/
def limits (request : Nat) : Span → List Move → List Span
  | _, [] => []
  | _, .setBudget d :: moves => limits request d moves
  | b, .dial n :: moves =>
      if n = request then b :: limits request b moves else limits request b moves
  | b, _ :: moves => limits request b moves

/-- The same moves but for changes of the budget, of which each side has its own. -/
inductive Rebudgeted : List Move → List Move → Prop
  | nil : Rebudgeted [] []
  | cons (m : Move) {moves others : List Move} (h : Rebudgeted moves others) :
      Rebudgeted (m :: moves) (m :: others)
  | left (d : Span) {moves others : List Move} (h : Rebudgeted moves others) :
      Rebudgeted (.setBudget d :: moves) others
  | right (d : Span) {moves others : List Move} (h : Rebudgeted moves others) :
      Rebudgeted moves (.setBudget d :: others)

theorem run_cons : run (m :: moves) t = some u ↔ ∃ w, fire m t = some w ∧ run moves w = some u := by
  simp [run, Option.bind_eq_some_iff]

theorem wait?_eq_some {d : Span} (h : t.wait? d = some u) :
    ∃ now, t.now.add? d = some now ∧ u = { t with now } := by
  obtain ⟨now, hn, rfl⟩ := Option.map_eq_some_iff.1 h
  exact ⟨now, hn, rfl⟩

theorem issue?_eq_some (h : t.issue? = some u) : ∃ deadline, t.now.add? t.budget = some deadline ∧
    u = { t with deadlines := t.deadlines ++ [deadline] } := by
  obtain ⟨deadline, hd, rfl⟩ := Option.map_eq_some_iff.1 h
  exact ⟨deadline, hd, rfl⟩

theorem dial?_eq_some {n : Nat} (h : t.dial? n = some u) : n < t.deadlines.length ∧
    u = { t with dials := t.dials ++ [⟨n, t.budget, t.now, none⟩] } := by
  rw [dial?] at h
  split at h
  · next hn => exact ⟨hn, (Option.some.inj h).symm⟩
  · exact nomatch h

theorem finish?_eq_some {i : Nat} {ending : DialEnding} (h : t.finish? i ending = some u) :
    ∃ d, t.dials[i]? = some d ∧ d.canEnd t.now ending = true ∧
      u = { t with
        allowance := d.remaining t.now
        dials := t.dials.set i (d.finish t.now ending) } := by
  rw [finish?] at h
  split at h
  · exact nomatch h
  · next d hd =>
      split at h
      · next hend => exact ⟨d, hd, hend, (Option.some.inj h).symm⟩
      · exact nomatch h

theorem deadlines_fire (hm : fire m t = some u) : t.deadlines <+: u.deadlines := by
  cases m with
  | wait d =>
      obtain ⟨now, -, rfl⟩ := wait?_eq_some hm
      exact List.prefix_rfl
  | setBudget | setAllowance =>
      obtain rfl := Option.some.inj hm
      exact List.prefix_rfl
  | issue =>
      obtain ⟨deadline, -, rfl⟩ := issue?_eq_some hm
      exact List.prefix_append _ _
  | dial n =>
      obtain ⟨-, rfl⟩ := dial?_eq_some hm
      exact List.prefix_rfl
  | finish i ending =>
      obtain ⟨d, -, -, rfl⟩ := finish?_eq_some hm
      exact List.prefix_rfl

theorem deadlines_run (hu : run moves t = some u) : t.deadlines <+: u.deadlines := by
  induction moves generalizing t with
  | nil => exact Option.some.inj hu ▸ List.prefix_rfl
  | cons m moves ih =>
      obtain ⟨w, hw, hu⟩ := run_cons.1 hu
      exact (deadlines_fire hw).trans (ih hu)

theorem deadline_run (hr : r < t.deadlines.length) (hu : run moves t = some u) :
    u.deadlines[r]? = t.deadlines[r]? := by
  obtain ⟨later, hl⟩ := deadlines_run hu
  rw [← hl, List.getElem?_append_left hr]

theorem map_budget_filter_set {dials : List Dial} {i : Nat} {d : Dial} (h : dials[i]? = some d)
    (now : Instant) (ending : DialEnding) :
    ((dials.set i (d.finish now ending)).filter (·.request = r)).map (·.budget) =
      (dials.filter (·.request = r)).map (·.budget) := by
  induction dials generalizing i with
  | nil => rfl
  | cons e dials ih =>
      cases i with
      | zero =>
          obtain rfl : e = d := Option.some.inj h
          by_cases he : e.request = r <;> simp [Dial.finish, he]
      | succ i =>
          by_cases he : e.request = r <;> simpa [he] using ih h

/-- The limits of the dials begun so far, and of those that are still to begin, are together the same
all along a run. -/
theorem limitsOf_fire (hm : fire m t = some u) :
    u.limitsOf r ++ limits r u.budget moves = t.limitsOf r ++ limits r t.budget (m :: moves) := by
  cases m with
  | wait d =>
      obtain ⟨now, -, rfl⟩ := wait?_eq_some hm
      rfl
  | setBudget | setAllowance =>
      obtain rfl := Option.some.inj hm
      rfl
  | issue =>
      obtain ⟨deadline, -, rfl⟩ := issue?_eq_some hm
      rfl
  | dial n =>
      obtain ⟨-, rfl⟩ := dial?_eq_some hm
      by_cases hn : n = r <;> simp [limitsOf, dialsOf, limits, hn]
  | finish i ending =>
      obtain ⟨d, hd, -, rfl⟩ := finish?_eq_some hm
      exact congrArg (· ++ limits r t.budget moves) (map_budget_filter_set hd t.now ending)

theorem limitsOf_run (hu : run moves t = some u) :
    u.limitsOf r = t.limitsOf r ++ limits r t.budget moves := by
  induction moves generalizing t with
  | nil =>
      obtain rfl := Option.some.inj hu
      exact (List.append_nil _).symm
  | cons m moves ih =>
      obtain ⟨w, hw, hu⟩ := run_cons.1 hu
      rw [ih hu, limitsOf_fire hw]

/-- Two states of a client that differ, apart from deadlines and allowance, only in budgets. -/
structure Alike (t v : Traffic) : Prop where
  now : t.now = v.now
  dials : List.Forall₂ Dial.Alike t.dials v.dials

theorem Alike.refl (t : Traffic) : t.Alike t :=
  ⟨rfl, List.forall₂_same.2 fun d _ => .refl d⟩

theorem Alike.fire (h : t.Alike v) (hu : fire m t = some u) (hw : fire m v = some w) :
    u.Alike w := by
  obtain ⟨hnow, hdials⟩ := h
  cases m with
  | wait d =>
      obtain ⟨now, hn, rfl⟩ := wait?_eq_some hu
      obtain ⟨now', hn', rfl⟩ := wait?_eq_some hw
      rw [hnow, hn'] at hn
      exact ⟨(Option.some.inj hn).symm, hdials⟩
  | setBudget | setAllowance =>
      obtain rfl := Option.some.inj hu
      obtain rfl := Option.some.inj hw
      exact ⟨hnow, hdials⟩
  | issue =>
      obtain ⟨deadline, -, rfl⟩ := issue?_eq_some hu
      obtain ⟨deadline', -, rfl⟩ := issue?_eq_some hw
      exact ⟨hnow, hdials⟩
  | dial n =>
      obtain ⟨-, rfl⟩ := dial?_eq_some hu
      obtain ⟨-, rfl⟩ := dial?_eq_some hw
      have hnew : Dial.Alike ⟨n, t.budget, t.now, none⟩ ⟨n, v.budget, v.now, none⟩ :=
        ⟨rfl, hnow, fun hb => by rw [hnow, show t.budget = v.budget from hb]⟩
      exact ⟨hnow, List.rel_append hdials (.cons hnew .nil)⟩
  | finish i ending =>
      obtain ⟨d, hd, -, rfl⟩ := finish?_eq_some hu
      obtain ⟨e, he, -, rfl⟩ := finish?_eq_some hw
      refine ⟨hnow, ?_⟩
      rw [hnow]
      exact forall₂_set hdials hd he fun h => h.finish v.now ending

theorem Alike.run (h : t.Alike v) (hb : Rebudgeted moves others) (hu : run moves t = some u)
    (hw : run others v = some w) : u.Alike w := by
  -- the budgets of the two sides may be anything: only a dial that begins looks at them
  induction hb generalizing t v with
  | nil => exact Option.some.inj hu ▸ Option.some.inj hw ▸ h
  | cons m _ ih =>
      obtain ⟨t', ht, hu⟩ := run_cons.1 hu
      obtain ⟨v', hv, hw⟩ := run_cons.1 hw
      exact ih (h.fire ht hv) hu hw
  | left d _ ih =>
      have hset : (t.setBudget d).Alike v := ⟨h.now, h.dials⟩
      exact ih hset hu hw
  | right d _ ih =>
      have hset : t.Alike (v.setBudget d) := ⟨h.now, h.dials⟩
      exact ih hset hu hw

theorem forall₂_eq_iff {dials others : List Dial} (h : List.Forall₂ Dial.Alike dials others) :
    dials = others ↔ dials.map (·.budget) = others.map (·.budget) := by
  refine ⟨fun he => congrArg _ he, fun hb => ?_⟩
  induction h with
  | nil => rfl
  | cons hhead _ ih =>
      obtain ⟨hbudget, hrest⟩ := List.cons.inj hb
      rw [hhead.eq hbudget, ih hrest]

theorem Alike.dialsOf_eq_iff (h : t.Alike v) (r : Nat) :
    t.dialsOf r = v.dialsOf r ↔ t.limitsOf r = v.limitsOf r := by
  apply forall₂_eq_iff
  refine List.rel_filter (fun d e hde => ?_) h.dials
  simp [hde.request]

theorem Rebudgeted.dialsOf_eq_iff (hb : Rebudgeted moves others) (hu : run moves t = some u)
    (hv : run others t = some v) :
    u.dialsOf r = v.dialsOf r ↔ limits r t.budget moves = limits r t.budget others := by
  rw [((Alike.refl t).run hb hu hv).dialsOf_eq_iff, limitsOf_run hu, limitsOf_run hv,
    List.append_cancel_left_eq]

/-- A budget set after a request has been issued leaves its deadline alone, but limits the dials that
begin for it afterwards. Two runs that differ only in such budgets come to the same for the request
exactly if its dials begin under the same ones. -/
theorem same_fate_iff (hr : r < t.deadlines.length) (hb : Rebudgeted moves others)
    (hu : run moves t = some u) (hv : run others t = some v) :
    u.deadlines[r]? = t.deadlines[r]? ∧ v.deadlines[r]? = t.deadlines[r]? ∧
      u.limitsOf r = t.limitsOf r ++ limits r t.budget moves ∧
      v.limitsOf r = t.limitsOf r ++ limits r t.budget others ∧
      (u.dialsOf r = v.dialsOf r ↔ limits r t.budget moves = limits r t.budget others) :=
  ⟨deadline_run hr hu, deadline_run hr hv, limitsOf_run hu, limitsOf_run hv,
    hb.dialsOf_eq_iff hu hv⟩

/-- A request issued under a budget of two seconds, whose connection stands after one. The budget is
cut to half a second when the dial has begun. -/
theorem same_fate_dialled : ∃ t u v : Traffic,
    (new (.ofMillis 2000)).issue? = some t ∧
    run [.dial 0, .wait (.ofMillis 1000), .finish 0 .connected] t = some u ∧
    run [.dial 0, .setBudget (.ofMillis 500), .wait (.ofMillis 1000), .finish 0 .connected] t
      = some v ∧
    u.deadlines[0]? = some ⟨2000000000⟩ ∧ v.deadlines[0]? = some ⟨2000000000⟩ ∧
    u.dialsOf 0 = v.dialsOf 0 ∧
    v.dialsOf 0 = [⟨0, .ofMillis 2000, .origin, some (.connected, ⟨1000000000⟩)⟩] := by
  let t : Traffic := (new (.ofMillis 2000)).issue?.get (by decide +kernel)
  let moves : List Move := [.dial 0, .wait (.ofMillis 1000), .finish 0 .connected]
  let others : List Move :=
    [.dial 0, .setBudget (.ofMillis 500), .wait (.ofMillis 1000), .finish 0 .connected]
  let u : Traffic := (run moves t).get (by decide +kernel)
  let v : Traffic := (run others t).get (by decide +kernel)
  have hu : run moves t = some u := (Option.some_get _).symm
  have hv : run others t = some v := (Option.some_get _).symm
  have hb : Rebudgeted moves others :=
    .cons _ (.right _ (.cons _ (.cons _ .nil)))
  have hdeadline : t.deadlines[0]? = some ⟨2000000000⟩ := by decide +kernel
  obtain ⟨hu', hv', -, -, hsame⟩ := same_fate_iff (r := 0) (by decide +kernel) hb hu hv
  exact ⟨t, u, v, (Option.some_get _).symm, hu, hv, hu'.trans hdeadline, hv'.trans hdeadline,
    hsame.2 (by decide +kernel), by decide +kernel⟩

/-- The same budget set a step earlier, when the request has been issued but its dial has not begun,
takes the connection away. -/
theorem not_same_fate : ¬ ∀ (r : Nat) (moves others : List Move) (t u v : Traffic),
    r < t.deadlines.length → Rebudgeted moves others → run moves t = some u →
      run others t = some v →
        u.deadlines[r]? = v.deadlines[r]? ∧ u.dialsOf r = v.dialsOf r := by
  intro h
  let t : Traffic := (new (.ofMillis 2000)).issue?.get (by decide +kernel)
  let moves : List Move := [.dial 0, .wait (.ofMillis 1000), .finish 0 .connected]
  let others : List Move := .setBudget (.ofMillis 500) :: moves
  let u : Traffic := (run moves t).get (by decide +kernel)
  let v : Traffic := (run others t).get (by decide +kernel)
  have hu : run moves t = some u := (Option.some_get _).symm
  have hv : run others t = some v := (Option.some_get _).symm
  have hb : Rebudgeted moves others := .right _ (.cons _ (.cons _ (.cons _ .nil)))
  obtain ⟨-, hsame⟩ := h 0 moves others t u v (by decide +kernel) hb hu hv
  have hconnected : u.dialsOf 0 =
      [⟨0, .ofMillis 2000, .origin, some (.connected, ⟨1000000000⟩)⟩] := by decide +kernel
  have hlost : v.dialsOf 0 =
      [⟨0, .ofMillis 500, .origin, some (.timedOut (.ofMillis 500), ⟨-500000000⟩)⟩] := by
    decide +kernel
  rw [hconnected, hlost] at hsame
  exact absurd hsame (by decide +kernel)

end Traffic

end LiveTree
