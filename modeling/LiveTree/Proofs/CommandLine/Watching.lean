import LiveTree.CommandLine.Basic
import LiveTree.Proofs.Session.Isolation
import LiveTree.Proofs.Watch.Resting

namespace LiveTree

namespace Watch

variable {a : Answer} {c : Channel}

theorem not_error_of_not_ends (h : ¬ a.Ends) (replicating : Bool) (f : Failure) :
    .error f ∉ expected replicating a.items := by
  have hnone : a.items.findSome? failureOf? = none := by
    refine List.findSome?_eq_none_iff.2 fun i hi => Option.not_isSome_iff_eq_none.1 ?_
    rw [failureOf?_isSome]
    exact fun hf => h (.inr ⟨i, hi, hf⟩)
  simp [expected, hnone]

theorem Channel.waiting_eq_nil (h : c.take? = none) (hr : c.receiverGone = false) :
    c.waiting = [] := by
  rw [take?] at h
  split at h
  · next hw => exact hw
  · simp [hr] at h

theorem Channel.hasRoom_of_waiting (h : c.waiting = []) (hc : c.capacity ≠ some 0) :
    c.hasRoom = true := by
  rw [hasRoom, h]
  cases hcapacity : c.capacity with
  | none => rfl
  | some k =>
      have hk : k ≠ 0 := fun hk => hc (by rw [hcapacity, hk])
      exact decide_eq_true (Nat.pos_of_ne_zero hk)

end Watch

namespace Session

open Watch (expected)
open Watch.System (solo)

variable {s t : Session} {x : Handle} {c : Watch.Call} {p : Watch.Pump} {u : Watch.Controller}
  {a : Answer} {replicating : Bool} {taken : Nat} {r : Request}

/-- The only watch of a session serves an answer, and so many of its deliveries have been taken. -/
def Watches (a : Answer) (replicating : Bool) (taken : Nat) (s : Session) : Prop :=
  ∃ x u c p, s.handle? 0 = some x ∧ x.watch = solo u c ∧ Watch.Call.Runs a c p ∧
    c.replicating = replicating ∧ c.channel.taken = taken

theorem watches_setHandle (hx : s.handle? 0 = some x) (h : c.Runs a p) (u : Watch.Controller) :
    (s.setHandle 0 { x with watch := solo u c }).Watches a c.replicating c.channel.taken :=
  ⟨_, u, c, p, handle?_setHandle hx (handle?_eq_some.1 hx).2, rfl, h, rfl, rfl⟩

theorem step_receive {first : Watch.Delivery} {e : Watch.Channel}
    (h : c.channel.take? = some (first, e)) (u : Watch.Controller) :
    step (solo u c) (.call 0 .receive) = solo u { c with channel := e } := by
  simp [step, solo, Watch.System.fire, Watch.System.fireCall?, Watch.CallMove.fire,
    Watch.CallMove.receive?, h]

theorem perform_receive_some {first : Watch.Delivery} {e : Watch.Channel}
    (hx : s.handle? 0 = some x) (hw : x.watch.rest = solo u c)
    (ht : c.channel.take? = some (first, e)) :
    s.perform 0 (.receive 0) = (.delivery first,
      s.setHandle 0 { x with watch := (solo u { c with channel := e }).rest }) := by
  have hget := (handle?_eq_some.1 hx).1
  have hcall : (solo u c).calls[0]? = some c := rfl
  simp only [perform, target?, hget, receive, hw, hcall, ht, step_receive ht]

theorem perform_receive_none (hx : s.handle? 0 = some x) (hw : x.watch.rest = solo u c)
    (ht : c.channel.take? = none) :
    s.perform 0 (.receive 0) = (if c.channel.isClosed then .closed else .nothing,
      s.setHandle 0 { x with watch := solo u c }) := by
  have hget := (handle?_eq_some.1 hx).1
  have hcall : (solo u c).calls[0]? = some c := rfl
  simp only [perform, target?, hget, receive, hw, hcall, ht]

theorem Watches.receive (h : s.Watches a replicating taken) :
    (∃ d t, (expected replicating a.items).drop taken =
        d :: (expected replicating a.items).drop (taken + 1) ∧
      s.perform 0 (.receive 0) = (.delivery d, t) ∧ t.Watches a replicating (taken + 1) ∧
        t.received = s.received) ∨
    (expected replicating a.items).drop taken = [] ∧ ∃ r t, s.perform 0 (.receive 0) = (r, t) ∧
      t.received = s.received ∧ (a.Ends → r = .closed) ∧ (¬ a.Ends → r = .nothing) := by
  obtain ⟨x, u, c, p, hx, hw, hruns, rfl, rfl⟩ := h
  obtain ⟨v, e, q, hrest, hruns, hwaits, hreplicating, htaken⟩ := Watch.System.rest_solo hruns u
  rw [← hw] at hrest
  have hwhole := hruns.carries.whole_of_undisturbed hruns.receiver
  have hdrop : (expected e.replicating a.items).drop e.channel.taken =
      e.channel.waiting ++ q.toCome := by
    rw [hwhole]
    exact List.drop_append_of_le_length hruns.behind
  rw [← hreplicating, ← htaken]
  cases ht : e.channel.take? with
  | some pair =>
      obtain ⟨first, rest⟩ := pair
      have hperform := perform_receive_some hx hrest ht
      have hreceived := hruns.receive ht
      obtain ⟨w, d, o, hrest, hafter, -, hreplicating, htaken⟩ :=
        Watch.System.rest_solo hreceived v
      rw [hrest] at hperform
      have hwatches := watches_setHandle hx hafter w
      obtain rfl := (Watch.Channel.take?_eq_some ht).1
      rw [hreplicating, htaken] at hwatches
      refine .inl ⟨first, _, ?_, hperform, hwatches, rfl⟩
      rw [← List.drop_drop, hdrop, Watch.Channel.waiting_of_take? ht]
      rfl
  | none =>
      have hperform := perform_receive_none hx hrest ht
      have hwaiting := Watch.Channel.waiting_eq_nil ht hruns.receiver
      have hroom := Watch.Channel.hasRoom_of_waiting hwaiting hruns.capacity
      have hrests : q.Rests := hwaits.resolve_right (by simp [hroom])
      obtain ⟨hsent, hgone⟩ := hruns.carries.rests hruns.receiver hrests
      refine .inr ⟨?_, _, _, hperform, rfl, fun hends => ?_, fun hopen => ?_⟩
      · rw [← hsent]
        exact hwaiting
      · simp [Watch.Channel.isClosed, hwaiting, hgone hends]
      · have hheld : a.ending = .held := Decidable.of_not_not fun hn => hopen (.inl hn)
        have hunfailed : ∀ f, .error f ∉ e.channel.sent := fun f => by
          rw [hsent]
          exact Watch.not_error_of_not_ends hopen _ f
        have hsender : e.channel.senderGone = false :=
          hruns.carries.closed.trans (hruns.attends.not_isEnded hheld hunfailed)
        simp [Watch.Channel.isClosed, hsender]

theorem Watches.await (h : s.Watches a replicating taken) :
    ∃ t, s.perform 0 (.awaitWatch 0) = (.done, t) ∧ t.Watches a replicating taken ∧
      t.received = s.received := by
  obtain ⟨x, u, c, p, hx, hw, hruns, rfl, rfl⟩ := h
  obtain ⟨v, e, q, hrest, hruns', -, hreplicating, htaken⟩ := Watch.System.rest_solo hruns u
  have hwatches := watches_setHandle hx hruns' v
  rw [hreplicating, htaken] at hwatches
  refine ⟨_, ?_, hwatches, rfl⟩
  have hlate (late : Except Failure Answer) :
      step (solo u c) (.call 0 (.answer late)) = solo u c := by
    simp [step, solo, Watch.System.fire, Watch.System.fireCall?, Watch.CallMove.fire,
      Watch.CallMove.answer?, hruns.point]
  have hcall : (solo v e).calls[0]? = some e := rfl
  have hresult : e.result? = some (.ok ()) := by rw [Watch.Call.result?, hruns'.point]
  simp only [perform, target?, hx, awaitWatch, hw, hlate, hrest, hcall, Option.bind_some, hresult,
    ofExcept]

def issuedCall (capacity : Option Nat) (replicating : Bool) : Watch.Call :=
  { Watch.Call.new capacity replicating with point := .awaiting 1 true }

theorem rest_opened (capacity : Option Nat) (replicating : Bool) :
    ∃ u, (step .new (.openCall capacity replicating)).rest =
        solo u (issuedCall capacity replicating) ∧
      step (solo u (issuedCall capacity replicating)) (.call 0 (.answer (.ok a))) =
        solo u { issuedCall capacity replicating with point := .connected 1 a } ∧
      ∃ v, Watch.Call.next? 0 u { issuedCall capacity replicating with point := .connected 1 a } =
        some (v, { issuedCall capacity replicating with
          point := .pumping (Watch.Pump.start 1 a replicating) }) :=
  ⟨_, rfl, rfl, _, rfl⟩

theorem runs_start {capacity : Option Nat} (hc : capacity ≠ some 0) :
    ({ issuedCall capacity replicating with
      point := .pumping (Watch.Pump.start 1 a replicating) } : Watch.Call).Runs a
        (Watch.Pump.start 1 a replicating) :=
  ⟨⟨rfl, Watch.Pump.carries_start 1 rfl rfl, rfl, hc⟩, Watch.Pump.attends_start 1 replicating _,
    .inl rfl, Nat.le_refl _⟩

/-- Where the answer has come, the call goes on to its pump, and that as far as it can. -/
theorem rest_connected {capacity : Option Nat} (hc : capacity ≠ some 0) {v : Watch.Controller}
    (h : Watch.Call.next? 0 u { issuedCall capacity replicating with point := .connected 1 a } =
      some (v, { issuedCall capacity replicating with
        point := .pumping (Watch.Pump.start 1 a replicating) })) :
    ∃ t d q, (solo u { issuedCall capacity replicating with point := .connected 1 a }).rest =
      solo t d ∧ Watch.Call.Runs a d q ∧ d.replicating = replicating ∧ d.channel.taken = 0 := by
  have hwork : (solo u { issuedCall capacity replicating with point := .connected 1 a }).work =
      Watch.pumpSteps (Watch.answerSize a) + 1 := rfl
  obtain ⟨t, d, q, hrest, hruns, -, hreplicating, htaken⟩ :=
    Watch.System.advanceBy_solo (s := v) (Watch.pumpSteps (Watch.answerSize a)) (runs_start hc)
      (Watch.Pump.start 1 a replicating).work_le
  refine ⟨t, d, q, ?_, hruns, hreplicating, htaken⟩
  rw [Watch.System.rest, hwork, Watch.System.advanceBy, Watch.System.advance?_solo, h]
  exact hrest

theorem openWatch_watches {capacity : Option Nat} (hx : s.handle? 0 = some x)
    (hw : x.watch = Watch.System.new) (hc : capacity ≠ some 0)
    (hr : x.location.request .get Request.eventStream (s.userAgent x) none = .ok r)
    (ho : (s.send x r).1.outcome = .done a) (hlate : (s.send x r).1.late = false) :
    ∃ t, s.perform 0 (.openWatch capacity replicating) = (.call 0, t) ∧
      t.Watches a replicating 0 ∧ t.received = (s.send x r).2.received := by
  obtain ⟨u, hopened, hanswer, v, hnext⟩ := @rest_opened a capacity replicating
  obtain ⟨w, d, q, hrest, hruns, hreplicating, htaken⟩ := rest_connected hc hnext
  have hx' : (s.send x r).2.handle? 0 = some x := by
    rwa [handle?, (s.keeps_send x r).handles]
  have hwatches := watches_setHandle hx' hruns w
  rw [hreplicating, htaken] at hwatches
  refine ⟨_, ?_, hwatches, rfl⟩
  have hpanic : (s.send x r).1.outcome.isPanic = false := by rw [ho]; rfl
  have hanswered : goOn (solo u (issuedCall capacity replicating)) 0 (s.send x r).1 =
      solo w d := by
    rw [goOn, hpanic, answered, ho, answerOf, hlate]
    exact (congrArg Watch.System.rest hanswer).trans hrest
  have hpending : ((solo u (issuedCall capacity replicating)).calls[0]?).any
      Watch.Call.isPending = true := rfl
  simp only [perform, target?, hx, openWatch, hr, hw]
  have hlength : Watch.System.new.calls.length = 0 := rfl
  rw [hlength, hopened, if_pos hpending, hanswered, hpanic]
  rfl

end Session

end LiveTree
