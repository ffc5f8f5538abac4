import LiveTree.Proofs.Positions
import LiveTree.Proofs.Watch.Refusal
import LiveTree.Proofs.Watch.Resting

namespace LiveTree.Watch

variable {s t : Controller} {number : Nat} {cancelled : Bool} {c d : Call} {m : CallMove}

theorem CallMove.isSome_fire (number : Nat) (cancelled : Bool) (s t : Controller) (c : Call)
    (m : CallMove) :
    (m.fire number cancelled s c).isSome = (m.fire number cancelled t c).isSome := by
  cases m with
  | reject | issue | answer | withdraw | abandon | poll | look | offer | close | receive =>
      simp only [fire, Option.isSome_map]
  | dropReceiver => rfl
  | enter =>
      simp only [fire, enter?]
      cases c.point with
      | entering => cases s.begin? number <;> cases t.begin? number <;> rfl
      | awaiting | withdrawing | connected | pumping | refused | abandoned => rfl
  | settle =>
      simp only [fire, settle?]
      cases c.point <;> rfl
  | establish =>
      simp only [fire, establish?]
      cases c.point with
      | connected g a =>
          dsimp only
          cases s.establish? g number <;> cases t.establish? g number <;> rfl
      | entering | awaiting | withdrawing | pumping | refused | abandoned => rfl
  | mark =>
      simp only [fire, mark?]
      cases c.point with
      | pumping p =>
          dsimp only
          cases p.point <;> rfl
      | entering | awaiting | withdrawing | connected | refused | abandoned => rfl
  | retire =>
      simp only [fire, retire?]
      cases c.point with
      | pumping p =>
          dsimp only
          cases p.point <;> rfl
      | entering | awaiting | withdrawing | connected | refused | abandoned => rfl

theorem StopMove.isSome_fire {hasEnded : Nat → Bool} {p : StopPoint} {m : StopMove}
    (hm : p.nextMove? = some m) (s t : Controller) :
    (m.fire hasEnded s p).isSome = (m.fire hasEnded t p).isSome := by
  cases p with
  | returned | abandoned => exact nomatch hm
  | entering =>
      obtain rfl := Option.some.inj hm
      have hsome (u : Controller) : (StopMove.enter.fire hasEnded u .entering).isSome = true := by
        obtain ⟨-, hb⟩ | ⟨-, hb⟩ | ⟨-, -, hb⟩ := u.beginStop_cases <;> simp [fire, hb]
      rw [hsome, hsome]
  | joining g j =>
      obtain rfl := Option.some.inj hm
      simp only [fire]
      split <;> rfl
  | leaving g =>
      obtain rfl := Option.some.inj hm
      rfl

theorem CallMove.isAbandoned_of_fire (h : m.fire number cancelled s c = some (t, d))
    (hm : m ≠ .abandon) (hd : d.isAbandoned = true) : c.isAbandoned = true := by
  rw [Call.isAbandoned_iff] at hd ⊢
  cases m with
  | abandon => exact absurd rfl hm
  | reject f =>
      obtain ⟨-, he⟩ := eq_of_map h
      obtain ⟨-, rfl⟩ := reject?_eq_some he
      exact nomatch hd
  | enter =>
      obtain ⟨-, ⟨-, rfl⟩ | ⟨-, -, rfl⟩⟩ := enter?_eq_some h <;> exact nomatch hd
  | issue =>
      obtain ⟨-, he⟩ := eq_of_map h
      obtain ⟨g, -, rfl⟩ := issue?_eq_some he
      exact nomatch hd
  | answer result =>
      obtain ⟨-, he⟩ := eq_of_map h
      obtain ⟨g, -, ⟨a, -, rfl⟩ | ⟨f, -, rfl⟩⟩ := answer?_eq_some he <;> exact nomatch hd
  | withdraw =>
      obtain ⟨-, he⟩ := eq_of_map h
      obtain ⟨g, issued, -, -, rfl⟩ := withdraw?_eq_some he
      exact nomatch hd
  | settle =>
      obtain ⟨g, f, -, -, rfl⟩ := settle?_eq_some h
      exact nomatch hd
  | establish =>
      obtain ⟨g, a, -, ⟨-, rfl⟩ | ⟨-, -, rfl⟩⟩ := establish?_eq_some h <;> exact nomatch hd
  | receive =>
      obtain ⟨-, he⟩ := eq_of_map h
      obtain ⟨first, e, -, rfl⟩ := receive?_eq_some he
      exact hd
  | dropReceiver =>
      obtain ⟨-, rfl⟩ := Prod.mk.inj (Option.some.inj h)
      exact hd
  | poll | look | offer | mark | retire | close =>
      cases hc : c.point with
      | pumping p =>
          obtain ⟨q, hq, -⟩ := fire_pump h hc
          exact nomatch hd.symm.trans hq
      | entering | awaiting | withdrawing | connected | refused | abandoned =>
          simp [fire, onPump, offer?, mark?, retire?, close?, hc] at h

theorem Call.nextMove?_ne_abandon (c : Call) (cancelled : Bool) :
    c.nextMove? cancelled ≠ some .abandon := by
  rw [nextMove?]
  cases c.point with
  | entering | withdrawing | connected | refused | abandoned => simp
  | awaiting g issued => cases cancelled <;> cases issued <;> simp
  | pumping p =>
      cases hp : p.point with
      | sending d looked =>
          cases looked with
          | true => simp [hp]
          | false =>
              simp only [hp]
              split <;> simp
      | polling | marking | retiring | closing | ended => simp [hp]

namespace System

variable {s t : System} {n k : Nat} {moves : List Move}

/-- Nothing at the handle goes on by itself. -/
def Quiet (s : System) : Prop :=
  s.advance? = none

theorem quiet_iff : s.Quiet ↔ (∀ k, s.stopMove? k = none) ∧ ∀ n, s.callMove? n = none := by
  have hrange {f : Nat → Option System} {size : Nat} (hf : ∀ n, size ≤ n → f n = none) :
      (List.range size).findSome? f = none ↔ ∀ n, f n = none := by
    simp only [List.findSome?_eq_none_iff, List.mem_range]
    refine ⟨fun h n => ?_, fun h n _ => h n⟩
    by_cases hn : n < size
    · exact h n hn
    · exact hf n (Nat.le_of_not_lt hn)
  have hstops (k : Nat) (hk : s.stops.length ≤ k) : s.stopMove? k = none := by
    rw [stopMove?, List.getElem?_eq_none hk]
    rfl
  have hcalls (n : Nat) (hn : s.calls.length ≤ n) : s.callMove? n = none := by
    rw [callMove?, List.getElem?_eq_none hn]
    rfl
  rw [Quiet, advance?, Option.or_eq_none_iff, hrange hstops, hrange hcalls]

theorem stopMove?_eq_none : s.stopMove? k = none ↔
    ∀ p m, s.stops[k]? = some p → p.nextMove? = some m →
      (m.fire s.hasEnded s.controller p).isSome = false := by
  simp only [stopMove?, Option.bind_eq_bind, Option.bind_eq_none_iff]
  refine forall_congr' fun p => ⟨fun h m hp hm => ?_, fun h hp m hm => ?_⟩
  · simpa [fireStop?, hp] using h hp m hm
  · simpa [fireStop?, hp] using h m hp hm

theorem callMove?_eq_none : s.callMove? n = none ↔
    ∀ c m, s.calls[n]? = some c → c.nextMove? (s.isCancelled n) = some m →
      (m.fire n (s.isCancelled n) s.controller c).isSome = false := by
  simp only [callMove?, Option.bind_eq_bind, Option.bind_eq_none_iff]
  refine forall_congr' fun c => ⟨fun h m hc hm => ?_, fun h hc m hm => ?_⟩
  · simpa [fireCall?, hc] using h hc m hm
  · simpa [fireCall?, hc] using h m hc hm

def withCall (s : System) (u : Controller) (c : Call) : System :=
  { s with controller := u, calls := s.calls ++ [c] }

theorem getElem?_withCall (s : System) (u : Controller) (c : Call) :
    (s.withCall u c).calls[s.calls.length]? = some c :=
  List.getElem?_concat_length ..

theorem fireCall?_withCall (s : System) (u : Controller) (c : Call) (m : CallMove) :
    (s.withCall u c).fireCall? s.calls.length m =
      (m.fire s.calls.length (s.isCancelled s.calls.length) u c).map fun r =>
        s.withCall r.1 r.2 := by
  have hset (v : Controller) (d : Call) : ({ s.withCall u c with
      controller := v
      calls := (s.withCall u c).calls.set s.calls.length d } : System) = s.withCall v d := by
    simp [withCall]
  simp only [fireCall?, getElem?_withCall, hset]
  rfl

theorem hasEnded_withCall {c : Call} (hc : c.hasEndedPump = false) (u : Controller) :
    (s.withCall u c).hasEnded = s.hasEnded := by
  funext n
  rw [hasEnded, hasEnded, withCall]
  obtain hn | rfl | hn := Nat.lt_trichotomy n s.calls.length
  · rw [List.getElem?_append_left hn]
  · simp [hc]
  · rw [List.getElem?_eq_none (by simpa using Nat.succ_le_of_lt hn),
      List.getElem?_eq_none (Nat.le_of_lt hn)]

/-- One more call is all that goes on at a handle that was quiet without it, whatever has become of
the controller. -/
theorem Quiet.advance?_withCall {c : Call} (h : s.Quiet) (hc : c.hasEndedPump = false)
    (hn : s.isCancelled s.calls.length = false) (u : Controller) :
    (s.withCall u c).advance? =
      (c.next? s.calls.length u).map fun r => s.withCall r.1 r.2 := by
  obtain ⟨hstops, hcalls⟩ := quiet_iff.1 h
  have hstop (k : Nat) : (s.withCall u c).stopMove? k = none := by
    refine stopMove?_eq_none.2 fun p m hp hm => ?_
    rw [hasEnded_withCall hc, StopMove.isSome_fire hm _ s.controller]
    exact stopMove?_eq_none.1 (hstops k) p m hp hm
  have hcall (n : Nat) (hn : n < s.calls.length) : (s.withCall u c).callMove? n = none := by
    refine callMove?_eq_none.2 fun d m hd hm => ?_
    rw [withCall, List.getElem?_append_left hn] at hd
    rw [CallMove.isSome_fire _ _ _ s.controller]
    exact callMove?_eq_none.1 (hcalls n) d m hd hm
  have hnone : (List.range (s.withCall u c).stops.length).findSome? (s.withCall u c).stopMove? =
      none := List.findSome?_eq_none_iff.2 fun k _ => hstop k
  have hbefore : (List.range s.calls.length).findSome? (s.withCall u c).callMove? = none :=
    List.findSome?_eq_none_iff.2 fun n hn => hcall n (List.mem_range.1 hn)
  have hlength : (s.withCall u c).calls.length = s.calls.length + 1 := by simp [withCall]
  rw [advance?, hnone, Option.none_or, hlength, List.range_succ, List.findSome?_append, hbefore,
    Option.none_or, List.findSome?_singleton, callMove?, getElem?_withCall, Call.next?]
  change (c.nextMove? (s.isCancelled s.calls.length)).bind _ = _
  rw [hn]
  cases c.nextMove? false with
  | none => rfl
  | some m => exact (s.fireCall?_withCall u c m).trans (by rw [hn]; rfl)

theorem work_withCall_le (s : System) (u : Controller) (c : Call) :
    c.work ≤ (s.withCall u c).work := by
  have hadd (b : Nat) (calls : List Call) : b ≤ calls.foldr (fun c n => c.work + n) b := by
    induction calls with
    | nil => exact Nat.le_refl b
    | cons d calls ih => exact Nat.le_trans ih (Nat.le_add_left _ _)
  rw [work, withCall, List.foldr_append]
  exact Nat.le_trans (Nat.le_add_right _ _) (hadd _ s.calls)

theorem advanceBy_of_quiet (h : s.Quiet) (fuel : Nat) : advanceBy fuel s = s := by
  cases fuel with
  | zero => rfl
  | succ fuel => rw [advanceBy, show s.advance? = none from h]

def begun (s : System) : Controller :=
  { s.controller with
    phase := .starting
    generation := s.controller.generation + 1
    cancel := some s.calls.length }

/-- The handle with one more call, which has claimed the controller and waits for its answer. -/
def asked (s : System) (capacity : Option Nat) (replicating : Bool) : System :=
  s.withCall s.begun
    { Call.new capacity replicating with point := .awaiting s.begun.generation true }

theorem Quiet.rest_openCall (h : s.Quiet) (hr : s.Reachable) (hp : s.phase = .idle)
    (capacity : Option Nat) (replicating : Bool) :
    (s.withCall s.controller (Call.new capacity replicating)).rest =
      s.asked capacity replicating := by
  have hcancelled : s.isCancelled s.calls.length = false := (hr.uncancelled (by simp [stage])).2
  let entered : Call :=
    { Call.new capacity replicating with point := .awaiting s.begun.generation false }
  have henter : (s.withCall s.controller (Call.new capacity replicating)).advance? =
      some (s.withCall s.begun entered) := by
    have hbegin : s.controller.begin? s.calls.length = some s.begun := if_pos hp
    rw [h.advance?_withCall rfl hcancelled]
    simp [Call.next?, Call.nextMove?, Call.new, CallMove.fire, CallMove.enter?, hbegin, entered]
  have hissue : (s.withCall s.begun entered).advance? = some (s.asked capacity replicating) := by
    rw [h.advance?_withCall rfl hcancelled]
    rfl
  have hwait : (s.asked capacity replicating).Quiet := by
    rw [Quiet, asked, h.advance?_withCall rfl hcancelled]
    rfl
  obtain ⟨fuel, hfuel⟩ := Nat.exists_eq_add_of_le'
    (Nat.le_trans (show 2 ≤ 4 by decide)
      (s.work_withCall_le s.controller (Call.new capacity replicating)))
  rw [rest, hfuel, advanceBy, henter]
  simp only [advanceBy, hissue]
  exact advanceBy_of_quiet hwait fuel

theorem Reachable.asked (h : s.Reachable) (hr : s.released = false) (hp : s.phase = .idle)
    (capacity : Option Nat) (replicating : Bool) : (s.asked capacity replicating).Reachable := by
  have hattempt := attempt_of_begin? hr (if_pos hp) capacity replicating
  have hissue : (s.withCall s.begun
      { Call.new capacity replicating with point := .awaiting s.begun.generation false }).fire
        (.call s.calls.length .issue) = some (s.asked capacity replicating) := by
    have hcancelled : s.isCancelled s.calls.length = false := (h.uncancelled (by simp [stage])).2
    exact (s.fireCall?_withCall ..).trans (by rw [hcancelled]; rfl)
  exact (h.run hattempt).fire hissue

theorem stage_asked (s : System) (capacity : Option Nat) (replicating : Bool) :
    (s.asked capacity replicating).stage s.calls.length =
      .opening (s.asked capacity replicating).controller.generation :=
  stage_of_getElem? (s.getElem?_withCall _ _)

theorem exists_fire_abandon (s : System) (capacity : Option Nat) (replicating : Bool) : ∃ t,
    (s.asked capacity replicating).fire (.call s.calls.length .abandon) = some t ∧
      t.isAbandoned s.calls.length = true ∧ t.released = s.released :=
  ⟨_, s.fireCall?_withCall _ _ .abandon, isAbandoned_of_getElem? (s.getElem?_withCall _ _), rfl⟩

theorem isAbandoned_of_fire {m : Move} (h : s.fire m = some t) (hm : ∀ k, m ≠ .call k .abandon)
    (ht : t.isAbandoned n = true) : s.isAbandoned n = true := by
  obtain ⟨d, hd, habandoned⟩ := (Option.any_eq_true ..).1 ht
  cases m with
  | openCall capacity replicating =>
      rw [openCall_cases h] at hd
      obtain hd | ⟨-, rfl⟩ := getElem?_concat_cases hd
      · rwa [isAbandoned_of_getElem? hd]
      · exact nomatch habandoned
  | openStop => rwa [openStop_cases h] at ht
  | release => rwa [(release_cases h).2] at ht
  | stop k m =>
      obtain ⟨p, cancelled, q, -, -, hs⟩ := fireStop_cases h
      rwa [hs] at ht
  | call k m =>
      obtain ⟨c, e, hc, hf, hs⟩ := fireCall_cases h
      rw [hs] at hd
      by_cases hk : k = n
      · subst hk
        rw [List.getElem?_set_self (List.getElem?_eq_some_iff.1 hc).1] at hd
        obtain rfl := Option.some.inj hd
        rw [isAbandoned_of_getElem? hc]
        exact CallMove.isAbandoned_of_fire hf (fun he => hm k (he ▸ rfl)) habandoned
      · rw [List.getElem?_set_ne hk] at hd
        rwa [isAbandoned_of_getElem? hd]

theorem exists_fire_of_advance? (h : s.advance? = some t) :
    ∃ m, s.fire m = some t ∧ ∀ k, m ≠ .call k .abandon := by
  rw [advance?, Option.or_eq_some_iff] at h
  obtain h | ⟨-, h⟩ := h
  · obtain ⟨k, -, hk⟩ := List.exists_of_findSome?_eq_some h
    obtain ⟨p, -, hk⟩ := Option.bind_eq_some_iff.1 hk
    obtain ⟨m, -, hk⟩ := Option.bind_eq_some_iff.1 hk
    exact ⟨.stop k m, hk, fun _ => Move.noConfusion⟩
  · obtain ⟨n, -, hn⟩ := List.exists_of_findSome?_eq_some h
    obtain ⟨c, -, hn⟩ := Option.bind_eq_some_iff.1 hn
    obtain ⟨m, hm, hn⟩ := Option.bind_eq_some_iff.1 hn
    refine ⟨.call n m, hn, fun k he => ?_⟩
    obtain ⟨-, rfl⟩ := Move.call.inj he
    exact c.nextMove?_ne_abandon _ hm

theorem isAbandoned_of_advanceBy {fuel : Nat} (h : (advanceBy fuel s).isAbandoned n = true) :
    s.isAbandoned n = true := by
  induction fuel generalizing s with
  | zero => exact h
  | succ fuel ih =>
      rw [advanceBy] at h
      split at h
      · exact h
      · next t ht =>
          obtain ⟨m, hm, hne⟩ := exists_fire_of_advance? ht
          exact isAbandoned_of_fire hm hne (ih h)

end System

end LiveTree.Watch
