import LiveTree.Proofs.Session.Isolation
import LiveTree.Proofs.Watch.Abandonment
import LiveTree.Proofs.Watch.Quiescence

namespace LiveTree

namespace Traffic

/-- The clock can tell the deadline of a request that is issued now: the present time and the whole
budget, whose seconds are counted by 63 bits and a sign. -/
def CanIssue (t : Traffic) : Prop :=
  t.now.nanos + t.budget.nanos < 0x8000000000000000 * 1000000000

instance (t : Traffic) : Decidable t.CanIssue :=
  inferInstanceAs (Decidable (_ < _))

def deadline (t : Traffic) : Instant :=
  ⟨t.now.nanos + t.budget.nanos⟩

theorem canIssue_iff (t : Traffic) : t.CanIssue ↔ t.now.nanos + t.budget.nanos < Instant.limit :=
  Iff.rfl

theorem issue?_of_canIssue {t : Traffic} (h : t.CanIssue) :
    t.issue? = some { t with deadlines := t.deadlines ++ [t.deadline] } := by
  rw [issue?, Instant.add?, if_pos (t.canIssue_iff.1 h)]
  rfl

theorem issue?_of_not_canIssue {t : Traffic} (h : ¬ t.CanIssue) : t.issue? = none := by
  rw [issue?, Instant.add?, if_neg (mt t.canIssue_iff.2 h)]
  rfl

end Traffic

namespace Exchange

variable {t : Traffic} {n : Network} {r : Request}

theorem isPanic_conclude (u : Url) (a : Answer) : (conclude u a).isPanic = false := by
  rw [conclude, readBody]
  split
  · rfl
  · cases a.ending <;> rfl

theorem isPanic_send (h : t.CanIssue) (n : Network) (r : Request) :
    (send t n r).outcome.isPanic = false := by
  have hconnected (t : Traffic) : (sendConnected t n r).outcome.isPanic = false := by
    rw [sendConnected]
    cases n.nextReply? with
    | none => rfl
    | some next =>
        obtain ⟨reply, rest⟩ := next
        cases reply with
        | answer a => exact isPanic_conclude r.url a
        | silence | hangUp => rfl
  rw [send, Traffic.issue?_of_canIssue h]
  simp only
  split
  · rfl
  · split
    · exact hconnected _
    · rfl
    · rfl
    · rfl
    · rfl

end Exchange

namespace Session

variable {s : Session} {h : Nat} {x : Handle} {c : Client} {r : Request} {op : Operation}
  {method : Method} {body : Option (List UInt8)}

def deadlines? (s : Session) (client : Nat) : Option (List Instant) :=
  (s.clients[client]?).map (·.traffic.deadlines)

/-- A request whose deadline cannot be told is a panic. It is not sent, and nothing is noted of it. -/
theorem send_of_not_canIssue (hc : s.clients[x.client]? = some c) (hi : ¬ c.traffic.CanIssue)
    (r : Request) : s.send x r = (Exchange.unsent .panicked c.traffic s.network, s) := by
  have hsame : s.setTraffic x.client c.traffic = s := by
    have hclients : s.clients.modify x.client (fun d => { d with traffic := c.traffic }) =
        s.clients := by
      refine List.ext_getElem? fun j => ?_
      by_cases hj : x.client = j
      · subst hj
        simp [hc]
      · simp [hj]
    rw [setTraffic, hclients]
  simp [send, hc, Exchange.send, Traffic.issue?_of_not_canIssue hi, Exchange.unsent, hsame]

theorem execute_of_not_canIssue (hc : s.clients[x.client]? = some c) (hi : ¬ c.traffic.CanIssue)
    (hr : x.location.request method Request.anything (s.userAgent x) body = .ok r) :
    s.execute x method body = (.panicked, s) := by
  simp only [execute, hr, send_of_not_canIssue hc hi]
  rfl

theorem isPanic_send (hc : s.clients[x.client]? = some c) (hi : c.traffic.CanIssue) (r : Request) :
    (s.send x r).1.outcome.isPanic = false := by
  rw [send, hc]
  exact Exchange.isPanic_send hi s.network r

theorem deadlines?_send (hc : s.clients[x.client]? = some c) (hi : c.traffic.CanIssue)
    (r : Request) : (s.send x r).2.deadlines? x.client =
      some (c.traffic.deadlines ++ [c.traffic.deadline]) := by
  have hkeeps := (Exchange.send_keeps (Traffic.issue?_of_canIssue hi) s.network r).2
  simp [send, hc, deadlines?, setTraffic, hkeeps]

theorem isPanic_perform (hx : s.handle? h = some x) (hop : op.exchange? = some (method, body)) :
    (s.perform h op).1 = .panicked ↔ (s.execute x method body).1.isPanic = true := by
  have hvalue (shape : Json.Shape) (body : List UInt8) :
      ofExcept (valueOf shape body) .value ≠ .panicked := by
    cases valueOf shape body <;> exact nofun
  cases op with
  | read | replace | merge | remove =>
      obtain ⟨rfl, rfl⟩ := Prod.mk.inj (Option.some.inj hop)
      simp only [perform, target?, hx, read, write]
      generalize s.execute x _ _ = e
      obtain ⟨outcome, t⟩ := e
      cases outcome <;> simp [result, Outcome.isPanic, hvalue]
  | push j =>
      obtain ⟨rfl, rfl⟩ := Prod.mk.inj (Option.some.inj hop)
      simp only [perform, target?, hx, push]
      generalize s.execute x .post (some (bodyOf j)) = e
      obtain ⟨outcome, t⟩ := e
      cases outcome with
      | failed | nothing | panicked => simp [Outcome.isPanic]
      | done body =>
          cases hname : PushedKey.ofBytes body <;> simp [hname, addDerived, Outcome.isPanic]
  | adjust | derive | setTimeout | setAllowance | openWatch | awaitWatch | stop | receive
  | dropReceiver | drop => cases hop

theorem isPanic_execute (hr : x.location.request method Request.anything (s.userAgent x) body = .ok r) :
    (s.execute x method body).1.isPanic = (s.send x r).1.outcome.isPanic := by
  simp only [execute, hr]
  cases (s.send x r).1.outcome with
  | done a =>
      rw [Outcome.bind, Exchange.readBody]
      cases a.ending <;> rfl
  | failed | nothing | panicked => rfl

theorem perform_of_panic (hx : s.handle? h = some x)
    (hop : op.exchange? = some (method, body)) (he : s.execute x method body = (.panicked, s)) :
    s.perform h op = (.panicked, s) := by
  cases op with
  | read | replace | merge | remove | push =>
      obtain ⟨rfl, rfl⟩ := Prod.mk.inj (Option.some.inj hop)
      simp only [perform, target?, hx, read, write, push, he, result]
  | adjust | derive | setTimeout | setAllowance | openWatch | awaitWatch | stop | receive
  | dropReceiver | drop => cases hop

theorem clients_perform (hx : s.handle? h = some x) (hop : op.exchange? = some (method, body)) :
    (s.perform h op).2.clients = (s.execute x method body).2.clients := by
  cases op with
  | read | replace | merge | remove =>
      obtain ⟨rfl, rfl⟩ := Prod.mk.inj (Option.some.inj hop)
      simp only [perform, target?, hx, read, write]
  | push j =>
      obtain ⟨rfl, rfl⟩ := Prod.mk.inj (Option.some.inj hop)
      simp only [perform, target?, hx, push]
      generalize s.execute x .post (some (bodyOf j)) = e
      obtain ⟨outcome, t⟩ := e
      cases outcome with
      | failed | nothing | panicked => rfl
      | done body =>
          dsimp only
          cases PushedKey.ofBytes body <;> rfl
  | adjust | derive | setTimeout | setAllowance | openWatch | awaitWatch | stop | receive
  | dropReceiver | drop => cases hop

theorem isAbandoned_goOn {w : Watch.System} {n : Nat} {sent : Exchange.Sent}
    (hp : sent.outcome.isPanic = false) (hn : w.isAbandoned n = false) :
    (goOn w n sent).isAbandoned n = false := by
  rw [goOn, if_neg (by simp [hp]), answered]
  cases answerOf sent.outcome with
  | none => exact hn
  | some a =>
      dsimp only
      split
      · exact hn
      · refine Bool.eq_false_iff.2 fun habandoned => ?_
        have hstep := Watch.System.isAbandoned_of_advanceBy habandoned
        rw [step] at hstep
        cases hf : w.fire (.call n (.answer a)) with
        | none => simp [hf, hn] at hstep
        | some v =>
            rw [hf] at hstep
            have hbefore := Watch.System.isAbandoned_of_fire hf (fun k => nofun) hstep
            exact nomatch hn.symm.trans hbefore

theorem perform_openWatch (hx : s.handle? h = some x) (hw : x.watch.Reachable)
    (hq : x.watch.Quiet) (ha : x.watch.Accepts) {capacity : Option Nat} {replicating : Bool}
    (hr : x.location.request .get Request.eventStream (s.userAgent x) none = .ok r) :
    s.perform h (.openWatch capacity replicating) =
      (if (s.send x r).1.outcome.isPanic then .panicked else .call x.watch.calls.length,
        (s.send x r).2.setHandle h { x with
          watch := goOn (x.watch.asked capacity replicating) x.watch.calls.length
            (s.send x r).1 }) := by
  have hlive := ha.released
  have hopened : step x.watch (.openCall capacity replicating) =
      x.watch.withCall x.watch.controller (Watch.Call.new capacity replicating) := by
    simp [step, Watch.System.fire, Watch.System.openCall?, hlive, Watch.System.withCall]
  have hidle : x.watch.phase = .idle := (Watch.System.accepts_iff hlive).1 ha
  have hrest := hq.rest_openCall hw hidle capacity replicating
  have hpending : ((x.watch.asked capacity replicating).calls[x.watch.calls.length]?).any
      Watch.Call.isPending = true := by
    rw [Watch.System.asked, Watch.System.getElem?_withCall]
    rfl
  simp only [perform, target?, hx, openWatch, hr, hopened, hrest, hpending, if_true]

theorem openWatch_of_canIssue (hx : s.handle? h = some x) (hc : s.clients[x.client]? = some c)
    (hw : x.watch.Reachable) (hq : x.watch.Quiet) (ha : x.watch.Accepts) (hi : c.traffic.CanIssue)
    {capacity : Option Nat} {replicating : Bool}
    (hr : x.location.request .get Request.eventStream (s.userAgent x) none = .ok r) :
    ∃ t v, s.perform h (.openWatch capacity replicating) = (.call x.watch.calls.length, t) ∧
      t.handle? h = some { x with watch := v } ∧
      t.deadlines? x.client = some (c.traffic.deadlines ++ [c.traffic.deadline]) ∧
      v.isAbandoned x.watch.calls.length = false := by
  have hpanic := isPanic_send hc hi r
  let v : Watch.System :=
    goOn (x.watch.asked capacity replicating) x.watch.calls.length (s.send x r).1
  refine ⟨(s.send x r).2.setHandle h { x with watch := v }, v, ?_, ?_, deadlines?_send hc hi r,
    isAbandoned_goOn hpanic ?_⟩
  · rw [perform_openWatch hx hw hq ha hr, hpanic]
    rfl
  · have hx' : (s.send x r).2.handle? h = some x := by rwa [handle?, (s.keeps_send x r).handles]
    exact handle?_setHandle hx' (handle?_eq_some.1 hx).2
  · exact Watch.System.isAbandoned_of_getElem? (x.watch.getElem?_withCall _ _)

/-- One whose deadline cannot be told breaks off where it would wait, and holds the controller. -/
theorem openWatch_of_not_canIssue (hx : s.handle? h = some x)
    (hc : s.clients[x.client]? = some c) (hw : x.watch.Reachable) (hq : x.watch.Quiet)
    (ha : x.watch.Accepts) (hi : ¬ c.traffic.CanIssue) {capacity : Option Nat} {replicating : Bool}
    (hr : x.location.request .get Request.eventStream (s.userAgent x) none = .ok r) :
    ∃ v, s.perform h (.openWatch capacity replicating) =
        (.panicked, s.setHandle h { x with watch := v }) ∧
      v.isAbandoned x.watch.calls.length = true ∧ v.released = false ∧
      ∀ moves u, v.run moves = some u → (∀ k, .stop k .enter ∉ moves) →
        u.phase = .starting ∧ (u.released = false → u.Refuses) := by
  obtain ⟨v, hv, habandoned, hlive⟩ := x.watch.exists_fire_abandon capacity replicating
  have hidle : x.watch.phase = .idle := (Watch.System.accepts_iff ha.released).1 ha
  have hasked := hw.asked ha.released hidle capacity replicating
  have hgoOn : goOn (x.watch.asked capacity replicating) x.watch.calls.length
      (Exchange.unsent .panicked c.traffic s.network) = v := by
    change step (x.watch.asked capacity replicating) _ = v
    rw [step, hv]
    rfl
  refine ⟨v, ?_, habandoned, hlive.trans ha.released, fun moves u hu hstops => ?_⟩
  · rw [perform_openWatch hx hw hq ha hr, send_of_not_canIssue hc hi, hgoOn]
    rfl
  · exact Watch.System.refuses_after_abandon hasked rfl (x.watch.stage_asked capacity replicating)
      hv hu hstops

theorem setTimeout_done (hx : s.handle? h = some x) (hc : s.clients[x.client]? = some c)
    (d : Span) :
    ∃ t, s.perform h (.setTimeout d) = (.done, t) ∧ t.timeout? h = some d := by
  let t : Session := { s with
    clients := s.clients.modify x.client fun c => { c with traffic := c.traffic.setBudget d } }
  have hx' : t.handle? h = some x := hx
  have hc' : t.clients[x.client]? = some { c with traffic := c.traffic.setBudget d } := by
    simp [t, hc]
  refine ⟨t, by simp only [perform, target?, hx, t], ?_⟩
  simp [timeout?, client?, hx', hc', Traffic.setBudget]

/-- Every time is taken as a budget, but a request can be issued under it only if the clock can tell
its deadline. If it cannot, an operation on data panics, and so does a watch, which leaves the
controller in the phase of starting, where every other one is refused until somebody calls a stop. A
panic is the end of a program. -/
theorem issues_or_panics (hx : s.handle? h = some x) (hc : s.clients[x.client]? = some c)
    (hw : x.watch.Reachable) (hq : x.watch.Quiet) (ha : x.watch.Accepts) :
    (∀ d, ∃ t, s.perform h (.setTimeout d) = (.done, t) ∧ t.timeout? h = some d) ∧
    (c.traffic.CanIssue →
      (∀ op method body r, op.exchange? = some (method, body) →
        x.location.request method Request.anything (s.userAgent x) body = .ok r →
          (s.perform h op).1 ≠ .panicked ∧ (s.perform h op).2.deadlines? x.client =
            some (c.traffic.deadlines ++ [c.traffic.deadline])) ∧
      ∀ capacity replicating r,
        x.location.request .get Request.eventStream (s.userAgent x) none = .ok r →
          ∃ t v, s.perform h (.openWatch capacity replicating) =
              (.call x.watch.calls.length, t) ∧
            t.handle? h = some { x with watch := v } ∧
            t.deadlines? x.client = some (c.traffic.deadlines ++ [c.traffic.deadline]) ∧
            v.isAbandoned x.watch.calls.length = false) ∧
    (¬ c.traffic.CanIssue →
      (∀ op method body r, op.exchange? = some (method, body) →
        x.location.request method Request.anything (s.userAgent x) body = .ok r →
          s.perform h op = (.panicked, s)) ∧
      ∀ capacity replicating r,
        x.location.request .get Request.eventStream (s.userAgent x) none = .ok r →
          ∃ v, s.perform h (.openWatch capacity replicating) =
              (.panicked, s.setHandle h { x with watch := v }) ∧
            v.isAbandoned x.watch.calls.length = true ∧ v.released = false ∧
            ∀ moves u, v.run moves = some u → (∀ k, .stop k .enter ∉ moves) →
              u.phase = .starting ∧ (u.released = false → u.Refuses)) ∧
    ∀ op t, s.perform h op = (.panicked, t) →
      ∀ rest, s.run ((h, op) :: rest) = ([.panicked], t) := by
  refine ⟨setTimeout_done hx hc, fun hi => ⟨?_, ?_⟩, fun hi => ⟨?_, ?_⟩, ?_⟩
  · intro op method body r hop hr
    have hexecute : (s.execute x method body).2 = (s.send x r).2 := by simp only [execute, hr]
    constructor
    · rw [Ne, isPanic_perform hx hop, isPanic_execute hr, isPanic_send hc hi]
      exact Bool.false_ne_true
    · rw [deadlines?, clients_perform hx hop, hexecute]
      exact deadlines?_send hc hi r
  · intro capacity replicating r hr
    exact openWatch_of_canIssue hx hc hw hq ha hi hr
  · intro op method body r hop hr
    exact perform_of_panic hx hop (execute_of_not_canIssue hc hi hr)
  · intro capacity replicating r hr
    exact openWatch_of_not_canIssue hx hc hw hq ha hi hr
  · intro op t hp rest
    simp only [run, hp]

/-- A program's first session, under some budget, with a server that cannot be reached. -/
def stranded (budget : Span) : Session :=
  ⟨[⟨.default, Traffic.new Settings.default.timeout |>.setBudget budget⟩],
    [⟨⟨"http://db.test", Query.empty⟩, 0, Watch.System.new, false⟩], .unreachable, []⟩

theorem connect_stranded : (start .unreachable).connect "http://db.test" .default =
    .ok (stranded Settings.default.timeout) := by
  rfl

/-- Under the default budget a read has its deadline. Under the longest one it panics, and a watch
that panics is still in the phase of starting. -/
theorem issues_or_panics_longest :
    let s := stranded Settings.default.timeout
    let t := stranded Span.longest
    (start .unreachable).connect "http://db.test" .default = .ok s ∧
    (s.perform 0 (.read .any)).2.deadlines? 0 = some [⟨30000000000⟩] ∧
    s.perform 0 (.setTimeout Span.longest) = (.done, t) ∧
    t.run [(0, .read .any), (0, .remove)] = ([.panicked], t) ∧
    ∃ (x : Handle) (v : Watch.System),
      t.perform 0 (.openWatch none false) = (.panicked, t.setHandle 0 { x with watch := v }) ∧
        v.phase = .starting ∧ v.Refuses := by
  intro s t
  let x : Handle := ⟨⟨"http://db.test", Query.empty⟩, 0, Watch.System.new, false⟩
  have hquiet : Watch.System.new.Quiet := rfl
  have haccepts : Watch.System.new.Accepts := Watch.System.accepts_of_idle rfl rfl
  obtain ⟨r, hr⟩ := Option.isSome_iff_exists.1 (show (x.location.request .get Request.anything
    Settings.default.userAgent none).toOption.isSome = true by decide +kernel)
  have hr := eq_ok_of_toOption hr
  obtain ⟨w, hw⟩ := Option.isSome_iff_exists.1 (show (x.location.request .get Request.eventStream
    Settings.default.userAgent none).toOption.isSome = true by decide +kernel)
  have hw := eq_ok_of_toOption hw
  obtain ⟨-, htold, -⟩ := issues_or_panics (s := s) (h := 0) (x := x) rfl rfl
    Watch.System.reachable_new hquiet haccepts
  obtain ⟨-, -, hpanics, hends⟩ := issues_or_panics (s := t) (h := 0) (x := x) rfl rfl
    Watch.System.reachable_new hquiet haccepts
  obtain ⟨hread, -⟩ := htold (by decide +kernel)
  obtain ⟨hdata, hwatch⟩ := hpanics (by decide +kernel)
  obtain ⟨v, hv, -, hlive, hstays⟩ := hwatch none false w hw
  obtain ⟨hphase, hrefuses⟩ := hstays [] v rfl nofun
  refine ⟨connect_stranded, ?_, rfl, ?_, x, v, hv, hphase, hrefuses hlive⟩
  · exact (hread (.read .any) .get none r rfl hr).2.trans (by decide +kernel)
  · exact hends _ _ (hdata (.read .any) .get none r rfl hr) _

/-- Not every budget that is taken can be used. -/
theorem not_never_panics : ¬ ∀ (n : Network) (address : String) (settings : Settings) (s : Session)
    (d : Span) (op : Operation), (start n).connect address settings = .ok s →
      ((s.perform 0 (.setTimeout d)).2.perform 0 op).1 ≠ .panicked := by
  intro hclaim
  have hread := hclaim _ _ _ _ Span.longest (.read .any) connect_stranded
  let x : Handle := ⟨⟨"http://db.test", Query.empty⟩, 0, Watch.System.new, false⟩
  obtain ⟨r, hr⟩ := Option.isSome_iff_exists.1 (show (x.location.request .get Request.anything
    Settings.default.userAgent none).toOption.isSome = true by decide +kernel)
  have hr := eq_ok_of_toOption hr
  have hpanic : (stranded Span.longest).execute x .get none = (.panicked, stranded Span.longest) :=
    execute_of_not_canIssue rfl (by decide +kernel) hr
  exact hread (congrArg Prod.fst (perform_of_panic rfl rfl hpanic))

end Session

end LiveTree
