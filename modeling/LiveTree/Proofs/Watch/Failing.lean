import LiveTree.Proofs.Watch.Serving

namespace LiveTree

def Failure.isOfController : Failure → Bool
  | .alreadyWatching | .stopped => true
  | _ => false

theorem Location.isOfController_request {l : Location} {method : Method} {accept userAgent : String}
    {body : Option (List UInt8)} {f : Failure}
    (h : l.request method accept userAgent body = .error f) : f.isOfController = false := by
  rw [request, requestUrl] at h
  split at h
  · obtain rfl := Except.error.inj h
    rfl
  · exact nomatch h

namespace Exchange

theorem isOfController_ofChain (chain : Chain) (text : String) :
    (Failure.ofChain chain text).isOfController = false := by
  rw [Failure.ofChain]
  split <;> rfl

theorem isOfController_conclude {u : Url} {a : Answer} {f : Failure}
    (h : conclude u a = .failed f) : f.isOfController = false := by
  rw [conclude] at h
  split at h
  · exact nomatch h
  · rw [readBody] at h
    cases he : a.ending with
    | closed =>
        rw [he] at h
        obtain rfl := Outcome.failed.inj h
        rfl
    | held =>
        rw [he] at h
        exact nomatch h
    | broken chain =>
        rw [he] at h
        obtain rfl := Outcome.failed.inj h
        exact isOfController_ofChain chain _

theorem isOfController_receive {u : Url} {r : Reply} {f : Failure} (h : receive u r = .failed f) :
    f.isOfController = false := by
  cases r with
  | answer a => exact isOfController_conclude h
  | silence | hangUp =>
      obtain rfl := Outcome.failed.inj h
      rfl

theorem isOfController_send {t : Traffic} {n : Network} {r : Request} {f : Failure}
    (h : (send t n r).outcome = .failed f) : f.isOfController = false := by
  rw [send] at h
  split at h
  · exact nomatch h
  · split at h
    · obtain rfl := Outcome.failed.inj h
      rfl
    · split at h
      · rw [sendConnected] at h
        split at h
        · obtain rfl := Outcome.failed.inj h
          rfl
        · exact isOfController_receive h
      · obtain rfl := Outcome.failed.inj h
        rfl
      · obtain rfl := Outcome.failed.inj h
        rfl
      · exact nomatch h
      · exact nomatch h

end Exchange

namespace Watch

/-- Whether a failure that a step brings from outside can come from a request or an exchange. -/
def Move.isGenuine : Move → Bool
  | .call _ (.reject f) | .call _ (.answer (.error f)) => !f.isOfController
  | _ => true

theorem Move.isGenuine_reject {l : Location} {method : Method} {accept userAgent : String}
    {body : Option (List UInt8)} {f : Failure}
    (h : l.request method accept userAgent body = .error f) (n : Nat) :
    (Move.call n (.reject f)).isGenuine = true := by
  rw [isGenuine, Location.isOfController_request h]
  rfl

theorem Move.isGenuine_answer {t : Traffic} {network : Network} {r : Request} {f : Failure}
    (h : (Exchange.send t network r).outcome = .failed f) (n : Nat) :
    (Move.call n (.answer (.error f))).isGenuine = true := by
  rw [isGenuine, Exchange.isOfController_send h]
  rfl

namespace CallPoint

def stage (p : CallPoint) : Stage :=
  Call.stage ⟨false, Channel.new none, p⟩

/-- What a call has failed with, though it may still have to tell the controller. -/
def failure? : CallPoint → Option Failure
  | .withdrawing _ f | .refused f => some f
  | _ => none

end CallPoint

/-- The steps of a call that leave it with a failure, with what they do to the controller. -/
inductive CallMove.Failing (number : Nat) (cancelled : Bool) (s t : Controller) :
    CallPoint → CallPoint → CallMove → Prop
  | stay (p : CallPoint) (m : CallMove) (hs : t = s) : Failing number cancelled s t p p m
  | reject (f : Failure) (hs : t = s) :
      Failing number cancelled s t .entering (.refused f) (.reject f)
  | claimed (hn : s.begin? number = none) (hs : t = s) :
      Failing number cancelled s t .entering (.refused .alreadyWatching) .enter
  | fail (g : Nat) (f : Failure) (hs : t = s) :
      Failing number cancelled s t (.awaiting g true) (.withdrawing g f) (.answer (.error f))
  | cancel (g : Nat) (issued : Bool) (hc : cancelled = true) (hs : t = s) :
      Failing number cancelled s t (.awaiting g issued) (.withdrawing g .stopped) .withdraw
  | settle (g : Nat) (f : Failure) (hs : t = s.settle g) :
      Failing number cancelled s t (.withdrawing g f) (.refused f) .settle
  | overtaken (g : Nat) (a : Answer) (hn : s.establish? g number = none) (hs : t = s) :
      Failing number cancelled s t (.connected g a) (.refused .stopped) .establish

theorem CallMove.fire_failing {number : Nat} {cancelled : Bool} {s t : Controller} {c d : Call}
    {m : CallMove} {f : Failure} (h : m.fire number cancelled s c = some (t, d))
    (hf : d.point.failure? = some f) : m.Failing number cancelled s t c.point d.point := by
  cases m with
  | reject e =>
      obtain ⟨hs, hd⟩ := eq_of_map h
      obtain ⟨hc, rfl⟩ := reject?_eq_some hd
      rw [hc]
      exact .reject e hs
  | enter =>
      obtain ⟨hc, ⟨-, rfl⟩ | ⟨hn, hs, rfl⟩⟩ := enter?_eq_some h
      · exact nomatch hf
      · rw [hc]
        exact .claimed hn hs
  | issue =>
      obtain ⟨-, hd⟩ := eq_of_map h
      obtain ⟨g, -, rfl⟩ := issue?_eq_some hd
      exact nomatch hf
  | answer result =>
      obtain ⟨hs, hd⟩ := eq_of_map h
      obtain ⟨g, hc, ⟨a, -, rfl⟩ | ⟨e, rfl, rfl⟩⟩ := answer?_eq_some hd
      · exact nomatch hf
      · rw [hc]
        exact .fail g e hs
  | withdraw =>
      obtain ⟨hs, hd⟩ := eq_of_map h
      obtain ⟨g, issued, hc, hcancelled, rfl⟩ := withdraw?_eq_some hd
      rw [hc]
      exact .cancel g issued hcancelled hs
  | settle =>
      obtain ⟨g, e, hc, hs, rfl⟩ := settle?_eq_some h
      rw [hc]
      exact .settle g e hs
  | establish =>
      obtain ⟨g, a, hc, ⟨-, rfl⟩ | ⟨hn, hs, rfl⟩⟩ := establish?_eq_some h
      · exact nomatch hf
      · rw [hc]
        exact .overtaken g a hn hs
  | abandon =>
      obtain ⟨-, hd⟩ := eq_of_map h
      obtain ⟨g, issued, -, rfl⟩ := abandon?_eq_some hd
      exact nomatch hf
  | poll | look | offer | mark | retire | close =>
      cases hc : c.point with
      | pumping p =>
          -- a pump goes on as a pump, and has no failure to tell
          obtain ⟨q, hq, -⟩ := fire_pump h hc
          simp [CallPoint.failure?, hq] at hf
      | _ => simp [fire, onPump, offer?, mark?, retire?, close?, hc] at h
  | receive =>
      obtain ⟨hs, hd⟩ := eq_of_map h
      obtain ⟨first, e, -, rfl⟩ := receive?_eq_some hd
      exact .stay c.point _ hs
  | dropReceiver =>
      obtain ⟨hs, rfl⟩ := Prod.mk.inj (Option.some.inj h)
      exact .stay c.point _ hs.symm

theorem CallMove.failure?_of_fire {number : Nat} {cancelled : Bool} {s t : Controller} {c d : Call}
    {m : CallMove} {f : Failure} (h : m.fire number cancelled s c = some (t, d))
    (hf : c.point.failure? = some f) : d.point.failure? = some f := by
  have hp : c.pump? = none := by
    refine Option.eq_none_iff_forall_ne_some.2 fun p hp => ?_
    rw [Call.pump?_eq_some.1 hp] at hf
    exact nomatch hf
  obtain ⟨hopening, -⟩ := fire_outside h hp
  cases hopening with
  | settle g e hc =>
      rw [hc] at hf
      exact hf
  | receive | dropReceiver => exact hf
  | reject _ hc | enter _ hc | issue _ hc | answer _ _ hc | withdraw _ _ _ hc | establish _ _ _ hc
  | overtaken _ _ hc | abandon _ _ hc =>
      rw [hc] at hf
      exact nomatch hf

namespace System

variable {s t u : System} {m : Move} {n g : Nat} {f : Failure}

def point (s : System) (n : Nat) : CallPoint :=
  (s.calls[n]?).elim .entering Call.point

def result? (s : System) (n : Nat) : Option (Except Failure Unit) :=
  s.calls[n]? >>= Call.result?

theorem point_of_getElem? {c : Call} (h : s.calls[n]? = some c) : s.point n = c.point := by
  rw [point, h]
  rfl

theorem stage_eq_point (s : System) (n : Nat) : s.stage n = (s.point n).stage := by
  rw [stage, point]
  cases s.calls[n]? <;> rfl

theorem result?_eq_error : s.result? n = some (.error f) ↔ s.point n = .refused f := by
  rw [result?, point]
  cases s.calls[n]? with
  | none => simp
  | some c =>
      obtain ⟨replicating, channel, point⟩ := c
      cases point <;> simp [Call.result?]

theorem result?_of_failure? (hf : (s.point n).failure? = some f) (hs : s.stage n = .refused) :
    s.result? n = some (.error f) := by
  rw [result?_eq_error]
  rw [stage_eq_point] at hs
  generalize s.point n = p at hf hs
  cases p with
  | refused e => rw [Option.some.inj hf]
  | withdrawing => exact nomatch hs
  | entering | awaiting | connected | pumping | abandoned => exact nomatch hf

theorem point_fire (hm : s.fire m = some t) (hn : ∀ k, m ≠ .call n k) : t.point n = s.point n := by
  rw [point, point]
  cases m with
  | openCall capacity replicating =>
      rw [openCall_cases hm]
      exact elim_openCall (f := Call.point) rfl s.calls n
  | openStop => rw [openStop_cases hm]
  | stop k m =>
      obtain ⟨p, cancelled, q, -, -, ht⟩ := fireStop_cases hm
      rw [ht]
  | release => rw [(release_cases hm).2]
  | call k m =>
      obtain ⟨c, d, -, -, ht⟩ := fireCall_cases hm
      have hk : k ≠ n := by
        rintro rfl
        exact hn m rfl
      rw [ht, List.getElem?_set_ne hk]

theorem failing_fire (hm : s.fire m = some t) (hf : (t.point n).failure? = some f) :
    t.point n = s.point n ∨ ∃ k, m = .call n k ∧
      k.Failing n (s.isCancelled n) s.controller t.controller (s.point n) (t.point n) := by
  by_cases hn : ∃ k, m = .call n k
  · obtain ⟨k, rfl⟩ := hn
    obtain ⟨c, d, hc, hfire, ht⟩ := fireCall_cases hm
    have hd : t.calls[n]? = some d := by
      rw [ht]
      exact List.getElem?_set_self (List.getElem?_eq_some_iff.1 hc).1
    rw [point_of_getElem? hd] at hf
    rw [point_of_getElem? hc, point_of_getElem? hd]
    exact .inr ⟨k, rfl, CallMove.fire_failing hfire hf⟩
  · exact .inl (point_fire hm fun k hk => hn ⟨k, hk⟩)

theorem call_of_failure? (hf : (s.point n).failure? = some f) : ∃ c, s.calls[n]? = some c := by
  cases hc : s.calls[n]? with
  | some c => exact ⟨c, rfl⟩
  | none =>
      rw [point, hc] at hf
      exact nomatch hf

theorem failure?_fire (hm : s.fire m = some t) (hf : (s.point n).failure? = some f) :
    (t.point n).failure? = some f := by
  obtain ⟨c, hc⟩ := call_of_failure? hf
  rw [point_of_getElem? hc] at hf
  obtain ht | ⟨k, d, hd, ht⟩ := call_fire hm hc
  · rwa [point_of_getElem? ht]
  · rw [point_of_getElem? ht]
    exact CallMove.failure?_of_fire hd hf

theorem failure?_run {moves : List Move} (hr : s.run moves = some t)
    (hf : (s.point n).failure? = some f) : (t.point n).failure? = some f := by
  induction moves generalizing s with
  | nil => exact Option.some.inj hr ▸ hf
  | cons m moves ih =>
      obtain ⟨u, hu, hr⟩ := run_cons.1 hr
      exact ih hr (failure?_fire hu hf)

/-- The caller has been told of a failure, or is told of it with the next step of its call. -/
def Tells (s : System) (n : Nat) (f : Failure) : Prop :=
  s.result? n = some (.error f) ∨ s.result? n = none ∧
    ∃ t, s.fire (.call n .settle) = some t ∧ t.result? n = some (.error f)

theorem tells_of_failure? (hf : (s.point n).failure? = some f) : s.Tells n f := by
  obtain ⟨c, hc⟩ := call_of_failure? hf
  rw [point_of_getElem? hc] at hf
  obtain ⟨replicating, channel, point⟩ := c
  cases point with
  | refused e =>
      obtain rfl := Option.some.inj hf
      exact .inl (by rw [result?, hc]; rfl)
  | withdrawing g e =>
      obtain rfl := Option.some.inj hf
      let refused : Call := Call.refuse ⟨replicating, channel, .withdrawing g e⟩ e
      have hsettle : s.fire (.call n .settle) = some { s with
          controller := s.controller.settle g, calls := s.calls.set n refused } := by
        rw [fire, fireCall?, hc]
        rfl
      have hn : n < s.calls.length := (List.getElem?_eq_some_iff.1 hc).1
      refine .inr ⟨by rw [result?, hc]; rfl, _, hsettle, ?_⟩
      rw [result?_eq_error, point, List.getElem?_set_self hn]
      rfl
  | entering | awaiting | connected | pumping | abandoned => cases hf

theorem failure?_of_answer (hm : s.fire (.call n (.answer (.error f))) = some t) :
    (t.point n).failure? = some f := by
  obtain ⟨c, d, hc, hfire, ht⟩ := fireCall_cases hm
  obtain ⟨-, hd⟩ := CallMove.eq_of_map hfire
  obtain ⟨g, -, ⟨a, ha, -⟩ | ⟨e, he, rfl⟩⟩ := CallMove.answer?_eq_some hd
  · exact nomatch ha
  · obtain rfl := Except.error.inj he
    have hn : n < s.calls.length := (List.getElem?_eq_some_iff.1 hc).1
    rw [point, ht, List.getElem?_set_self hn]
    rfl

/-- A call whose exchange has failed is told of that failure, and of nothing else, whatever else goes
on at the handle. -/
theorem tells_of_answer (hm : s.fire (.call n (.answer (.error f))) = some t) {moves : List Move}
    (hr : t.run moves = some u) : u.Tells n f :=
  tells_of_failure? (failure?_run hr (failure?_of_answer hm))

theorem exists_turning {P : System → Prop} {moves : List Move} (hr : s.run moves = some t)
    (hs : ¬ P s) (ht : P t) : ∃ before m after u v, moves = before ++ m :: after ∧
      s.run before = some u ∧ u.fire m = some v ∧ v.run after = some t ∧ ¬ P u ∧ P v := by
  induction moves generalizing s with
  | nil => exact absurd (Option.some.inj hr ▸ ht) hs
  | cons m moves ih =>
      obtain ⟨u, hu, hr⟩ := run_cons.1 hr
      by_cases hp : P u
      · exact ⟨[], m, moves, s, u, rfl, rfl, hu, hr, hs, hp⟩
      · obtain ⟨before, k, after, v, w, rfl, hv, hrest⟩ := ih hr hp
        exact ⟨m :: before, k, after, v, w, rfl, run_cons.2 ⟨u, hu, hv⟩, hrest⟩

/-- A call takes back its watch only for a failure of the exchange, or because it was cancelled. -/
def Founded (s : System) (n : Nat) : Prop :=
  ∀ g f, s.point n = .withdrawing g f →
    f.isOfController = false ∨ f = .stopped ∧ s.isCancelled n = true

theorem Founded.fire (h : s.Founded n) (hm : s.fire m = some t) (hg : m.isGenuine = true) :
    t.Founded n := by
  intro g f ht
  have hcancelled : s.isCancelled n = true → t.isCancelled n = true := isCancelled_fire hm
  have hkeep {p : CallPoint} (hp : p = .withdrawing g f) (hs : s.point n = p) :
      f.isOfController = false ∨ f = .stopped ∧ t.isCancelled n = true :=
    (h g f (hs.trans hp)).imp_right fun hf => ⟨hf.1, hcancelled hf.2⟩
  obtain hsame | ⟨k, rfl, hfailing⟩ := failing_fire (f := f) hm (by rw [ht]; rfl)
  · exact hkeep ht hsame.symm
  · rw [ht] at hfailing
    generalize hs : s.point n = p at hfailing
    cases hfailing with
    | stay => exact hkeep rfl hs
    | fail => exact .inl (by simpa [Move.isGenuine] using hg)
    | cancel _ _ hc => exact .inr ⟨rfl, hcancelled hc⟩

theorem Founded.run {moves : List Move} (h : s.Founded n) (hr : s.run moves = some t)
    (hg : ∀ m ∈ moves, m.isGenuine = true) : t.Founded n := by
  induction moves generalizing s with
  | nil => exact Option.some.inj hr ▸ h
  | cons m moves ih =>
      obtain ⟨u, hu, hr⟩ := run_cons.1 hr
      have hrest : ∀ k ∈ moves, k.isGenuine = true := fun k hk => hg k (List.mem_cons_of_mem _ hk)
      exact ih (h.fire hu (hg m (List.mem_cons_self ..))) hr hrest

theorem founded_new (n : Nat) : new.Founded n :=
  nofun

theorem exists_refusal {moves : List Move} (hr : s.run moves = some t)
    (hs : s.point n ≠ .refused f) (ht : t.point n = .refused f) :
    ∃ before k after u v, moves = before ++ .call n k :: after ∧ s.run before = some u ∧
      u.fire (.call n k) = some v ∧ v.run after = some t ∧ v.point n = .refused f ∧
        u.point n ≠ .refused f ∧
          k.Failing n (u.isCancelled n) u.controller v.controller (u.point n) (.refused f) := by
  obtain ⟨before, m, after, u, v, rfl, hu, hm, hafter, hne, hv⟩ :=
    exists_turning (P := fun u => u.point n = .refused f) hr hs ht
  obtain hsame | ⟨k, rfl, hfailing⟩ := failing_fire (f := f) hm (by rw [hv]; rfl)
  · exact absurd (hsame.symm.trans hv) hne
  · exact ⟨before, k, after, u, v, rfl, hu, hm, hafter, hv, hne, hv ▸ hfailing⟩

end System

end Watch

end LiveTree
