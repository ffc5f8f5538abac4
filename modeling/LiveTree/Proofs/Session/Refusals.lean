import LiveTree.Proofs.Traffic.Remainders
import LiveTree.Proofs.Watch.Failing
import LiveTree.Session.Operation

namespace LiveTree

namespace Exchange

variable {t : Traffic} {n : Network} {r : Request} {u : Url} {a : Answer} {f : Failure}

/-- The server can be reached in time, and answers. -/
def Answered (t : Traffic) (n : Network) (r : Request) (a : Answer) : Prop :=
  r.isSendable = true ∧ ∃ issued connected rest, t.issue? = some issued ∧
    connect issued n = some (.connected, connected) ∧ n.nextReply? = some (.answer a, rest)

def refusal? (u : Url) (a : Answer) : Option Failure :=
  match a.ending with
  | .closed => some (.remote a.status (String.ofList (a.charset.read a.pieces.flatten)))
  | .broken chain => some (Failure.ofChain chain (aboutUrl bodyText u))
  | .held => none

/-- How a refusal is told: with the status that was read, or as a failure of the transport. -/
theorem refusal?_cases (h : refusal? u a = some f) :
    (a.ending = .closed ∧ f.status? = some a.status ∧ f.isTimeout = false) ∨
      ∃ chain, a.ending = .broken chain ∧ f.status? = none ∧ f.isTimeout = chain.isTimeout := by
  rw [refusal?] at h
  cases he : a.ending with
  | closed =>
      rw [he] at h
      obtain rfl := Option.some.inj h
      exact .inl ⟨rfl, rfl, rfl⟩
  | held =>
      rw [he] at h
      exact nomatch h
  | broken chain =>
      rw [he] at h
      obtain rfl := Option.some.inj h
      refine .inr ⟨chain, rfl, ?_⟩
      cases hc : chain.isTimeout <;> simp [Failure.ofChain, hc, Failure.status?, Failure.isTimeout]

theorem conclude_of_refused (hs : isSuccess a.status = false) :
    conclude u a = (refusal? u a).elim .nothing .failed := by
  rw [conclude, if_neg (by simp [hs]), readBody, refusal?]
  cases a.ending <;> rfl

theorem outcome_of_answered (h : Answered t n r a) :
    (send t n r).outcome = conclude r.url a := by
  obtain ⟨hsendable, issued, connected, rest, hissued, hconnected, hreply⟩ := h
  simp [send, hissued, hsendable, hconnected, sendConnected, hreply, receive]

theorem result_of_setup {d : Dial} (hb : 1 < d.budget.nanos) :
    d.result ⟨d.started.nanos + 1⟩ .connected = .connected := by
  have helapsed : d.elapsed ⟨d.started.nanos + 1⟩ = Span.ofNanos 1 := by
    rw [Dial.elapsed, Instant.since, show d.started.nanos + 1 - d.started.nanos = 1 by omega]
    rfl
  have hleft : ¬ (d.remaining ⟨d.started.nanos + 1⟩).isSpent = true := by
    have hone : ((Span.ofNanos 1).nanos : Int) < mostNanos := by decide
    rw [Dial.remaining, helapsed, Allowance.isSpent_remaining_iff hone]
    exact Nat.not_le.2 hb
  rw [Dial.result, if_neg hleft]

/-- A server that answers does so in time, if the budget is more than it takes to connect. -/
theorem answered_of_budget {replies : List Reply} (hr : r.isSendable = true)
    (hb : 1 < t.budget.nanos) (hclock : t.now.nanos + t.budget.nanos < Instant.limit) :
    Answered t (.scripted (.answer a :: replies)) r a := by
  let issued : Traffic := { t with deadlines := t.deadlines ++ [⟨t.now.nanos + t.budget.nanos⟩] }
  have hissued : t.issue? = some issued := by
    rw [Traffic.issue?, Instant.add?, if_pos hclock]
    rfl
  let later : Instant := ⟨t.now.nanos + 1⟩
  have hlater : t.now.add? (Span.ofNanos 1) = some later := by
    have hsetup : (Span.ofNanos 1).nanos = 1 := rfl
    rw [Instant.add?, hsetup, if_pos (by omega)]
    rfl
  let d : Dial := ⟨t.deadlines.length, t.budget, t.now, none⟩
  have hresult : d.result later .connected = .connected := result_of_setup hb
  obtain ⟨connected, hconnect⟩ : ∃ connected,
      connect issued (.scripted (.answer a :: replies)) = some (.connected, connected) := by
    simp [connect, Traffic.dial?, issued, Traffic.wait?, Network.setupTime, Network.isReachable, hlater,
      Traffic.finish?, Dial.canEnd, Dial.finish, d, hresult]
  exact ⟨hr, issued, connected, .scripted replies, hissued, hconnect, rfl⟩

end Exchange

namespace Session

variable {s : Session} {h : Nat} {x : Handle} {c : Client} {r : Request} {a : Answer}
  {op : Operation} {method : Method} {body : Option (List UInt8)}

/-- The method and the body of the request that an operation on data sends. -/
def Operation.exchange? : Operation → Option (Method × Option (List UInt8))
  | .read _ => some (.get, none)
  | .replace j => some (.put, some (bodyOf j))
  | .merge j => some (.patch, some (bodyOf j))
  | .remove => some (.delete, none)
  | .push j => some (.post, some (bodyOf j))
  | _ => none

/-- An operation on data whose exchange gives it no body comes to what the exchange came to. -/
theorem perform_of_execute (hx : s.handle? h = some x) (hop : op.exchange? = some (method, body))
    {o : Option Failure} (ho : (s.execute x method body).1 = o.elim .nothing .failed) :
    (s.perform h op).1 = o.elim .nothing .failed := by
  cases op with
  | read | replace | merge | remove | push =>
      obtain ⟨rfl, rfl⟩ := Prod.mk.inj (Option.some.inj hop)
      simp only [perform, target?, hx, read, write, push]
      generalize s.execute x _ _ = e at ho
      obtain ⟨outcome, t⟩ := e
      cases o <;> cases ho <;> rfl
  | adjust | derive | setTimeout | setAllowance | openWatch | awaitWatch | stop | receive
  | dropReceiver | drop => exact nomatch hop

theorem outcome_of_answered (hc : s.clients[x.client]? = some c)
    (ha : Exchange.Answered c.traffic s.network r a) :
    (s.send x r).1.outcome = Exchange.conclude r.url a := by
  rw [send, hc]
  exact Exchange.outcome_of_answered ha

theorem execute_of_answered (hc : s.clients[x.client]? = some c)
    (ha : Exchange.Answered c.traffic s.network r a) (hs : Exchange.isSuccess a.status = true)
    (hend : a.ending = .closed)
    (hr : x.location.request method Request.anything (s.userAgent x) body = .ok r) :
    (s.execute x method body).1 = .done a.pieces.flatten := by
  have ho : (s.send x r).1.outcome = .done a := by
    rw [outcome_of_answered hc ha, Exchange.conclude, if_pos hs]
  simp only [execute, hr, ho, Outcome.bind, Exchange.readBody, hend]

theorem execute_of_refused (hc : s.clients[x.client]? = some c)
    (ha : Exchange.Answered c.traffic s.network r a) (hs : Exchange.isSuccess a.status = false)
    (hr : x.location.request method Request.anything (s.userAgent x) body = .ok r) :
    (s.execute x method body).1 = (Exchange.refusal? r.url a).elim .nothing .failed := by
  have ho : (s.send x r).1.outcome = (Exchange.refusal? r.url a).elim .nothing .failed :=
    (outcome_of_answered hc ha).trans (Exchange.conclude_of_refused hs)
  simp only [execute, hr, ho]
  cases Exchange.refusal? r.url a <;> rfl

/-- A program's first session, with a server that answers its first request so. -/
def answeredBy (a : Answer) : Session :=
  ⟨[⟨.default, Traffic.new Settings.default.timeout⟩],
    [⟨⟨"http://db.test", Query.empty⟩, 0, Watch.System.new, false⟩], .scripted [.answer a], []⟩

theorem connect_answeredBy (a : Answer) :
    (start (.scripted [.answer a])).connect "http://db.test" .default = .ok (answeredBy a) := by
  rfl

theorem eq_ok_of_toOption {α : Type} {e : Except Failure α} {x : α} (h : e.toOption = some x) :
    e = .ok x := by
  cases e with
  | error f => exact nomatch h
  | ok y => exact congrArg Except.ok (Option.some.inj h)

theorem exists_answered {replies : List Reply}
    (hn : s.network = .scripted (.answer a :: replies))
    (hsendable : (x.location.request method Request.anything (s.userAgent x) body).toOption.any
      Request.isSendable = true) (hb : 1 < c.traffic.budget.nanos)
    (hclock : c.traffic.now.nanos + c.traffic.budget.nanos < Instant.limit) :
    ∃ r, x.location.request method Request.anything (s.userAgent x) body = .ok r ∧
      Exchange.Answered c.traffic s.network r a := by
  obtain ⟨r, hr, hsent⟩ := (Option.any_eq_true _ _).1 hsendable
  exact ⟨r, eq_ok_of_toOption hr, hn ▸ Exchange.answered_of_budget hsent hb hclock⟩

theorem exists_request_answeredBy (a : Answer) : ∃ x c r, (answeredBy a).handle? 0 = some x ∧
    (answeredBy a).clients[x.client]? = some c ∧
    x.location.request .get Request.anything ((answeredBy a).userAgent x) none = .ok r ∧
    Exchange.Answered c.traffic (answeredBy a).network r a := by
  let x : Handle := ⟨⟨"http://db.test", Query.empty⟩, 0, Watch.System.new, false⟩
  let c : Client := ⟨.default, Traffic.new Settings.default.timeout⟩
  have hsendable : (x.location.request .get Request.anything "firebase-http/0.1.0" none).toOption.any
      Request.isSendable = true := by decide +kernel
  obtain ⟨r, hr, ha⟩ := exists_answered (s := answeredBy a) (x := x) (c := c) rfl hsendable
    (by decide +kernel) (by decide +kernel)
  exact ⟨x, c, r, rfl, rfl, hr, ha⟩

/-- When a request is refused, every operation on data, and every watch that was not stopped before,
tells the failure that the answer comes to. It is the server's, with its status, exactly if the body
has come in full; otherwise what broke the body off decides whether it is a timeout, and a body that
never ends is waited for. -/
theorem refused_tells (hx : s.handle? h = some x) (hc : s.clients[x.client]? = some c)
    (ha : Exchange.Answered c.traffic s.network r a) (hs : Exchange.isSuccess a.status = false) :
    (∀ op method body, op.exchange? = some (method, body) →
      x.location.request method Request.anything (s.userAgent x) body = .ok r →
        (s.perform h op).1 = (Exchange.refusal? r.url a).elim .nothing .failed) ∧
    (∀ (result : Except Failure Answer) (w v u : Watch.System) (n : Nat) (moves : List Watch.Move),
      answerOf (s.send x r).1.outcome = some result →
        w.fire (.call n (.answer result)) = some v → v.run moves = some u →
          ∃ f, Exchange.refusal? r.url a = some f ∧ u.Tells n f) ∧
    ∀ f, Exchange.refusal? r.url a = some f →
      (f.status? = some a.status ↔ a.ending = .closed) ∧
        (f.isTimeout = true ↔ ∃ chain, a.ending = .broken chain ∧ chain.isTimeout = true) := by
  refine ⟨fun op method body hop hr => ?_, fun result w v u n moves hresult hv hu => ?_,
    fun f hf => ?_⟩
  · exact perform_of_execute hx hop (execute_of_refused hc ha hs hr)
  · rw [outcome_of_answered hc ha, Exchange.conclude_of_refused hs] at hresult
    cases hf : Exchange.refusal? r.url a with
    | none =>
        rw [hf] at hresult
        exact nomatch hresult
    | some f =>
        rw [hf] at hresult
        obtain rfl := Option.some.inj hresult
        exact ⟨f, rfl, Watch.System.tells_of_answer hv hu⟩
  · obtain ⟨he, hstatus, htimeout⟩ | ⟨chain, he, hstatus, htimeout⟩ := Exchange.refusal?_cases hf
    · simp [he, hstatus, htimeout]
    · simp [he, hstatus, htimeout]

/-- The server denies a read. A watch is denied while a stop begins, and is told so all the same. -/
theorem refused_tells_denied :
    let answer : Answer := ⟨401, [Text.Utf8.encode "denied".toList], .closed, .utf8⟩
    ∃ (s : Session) (v u : Watch.System),
      (start (.scripted [.answer answer])).connect "http://db.test" .default = .ok s ∧
      (s.perform 0 (.read .any)).1 = .failed (.remote 401 "denied") ∧
      Watch.System.new.run [.openCall none false, .call 0 .enter, .call 0 .issue,
        .call 0 (.answer (.error (.remote 401 "denied")))] = some v ∧
      v.run [.openStop, .stop 0 .enter] = some u ∧ u.phase = .stopping ∧
        u.Tells 0 (.remote 401 "denied") := by
  intro answer
  let s : Session := answeredBy answer
  obtain ⟨x, c, r, hx, hc, hr, ha⟩ := exists_request_answeredBy answer
  have hdenied : Exchange.refusal? r.url answer = some (.remote 401 "denied") := by
    have htext : String.ofList (Text.Charset.utf8.read (Text.Utf8.encode "denied".toList)) =
        "denied" := by decide +kernel
    simpa [Exchange.refusal?, answer] using htext
  have hs : Exchange.isSuccess answer.status = false := rfl
  have hresult : answerOf (s.send x r).1.outcome = some (.error (.remote 401 "denied")) := by
    rw [outcome_of_answered hc ha, Exchange.conclude_of_refused hs, hdenied]
    rfl
  let w : Watch.System := (Watch.System.new.run
    [.openCall none false, .call 0 .enter, .call 0 .issue]).get (by decide +kernel)
  let v : Watch.System :=
    (w.fire (.call 0 (.answer (.error (.remote 401 "denied"))))).get (by decide +kernel)
  let u : Watch.System := (v.run [.openStop, .stop 0 .enter]).get (by decide +kernel)
  have hv : w.fire (.call 0 (.answer (.error (.remote 401 "denied")))) = some v :=
    (Option.some_get _).symm
  have hu : v.run [.openStop, .stop 0 .enter] = some u := (Option.some_get _).symm
  obtain ⟨hdata, hwatch, -⟩ := refused_tells hx hc ha hs
  have hread := hdata (.read .any) .get none rfl hr
  rw [hdenied] at hread
  obtain ⟨f, hf, htells⟩ := hwatch _ w v u 0 _ hresult hv hu
  obtain rfl := Option.some.inj (hdenied.symm.trans hf)
  exact ⟨s, v, u, connect_answeredBy answer, hread, (Option.some_get _).symm, hu,
    by decide +kernel, htells⟩

/-- The server fails, and its connection ends before the body does: the status is not told. -/
theorem not_refused_tells_remote : ¬ ∀ (s : Session) (h : Nat) (x : Handle) (c : Client)
    (r : Request) (a : Answer) (op : Operation) (method : Method) (body : Option (List UInt8)),
    s.handle? h = some x → s.clients[x.client]? = some c →
      Exchange.Answered c.traffic s.network r a → Exchange.isSuccess a.status = false →
        a.ending ≠ .held → op.exchange? = some (method, body) →
          x.location.request method Request.anything (s.userAgent x) body = .ok r →
            ∃ text, (s.perform h op).1 = .failed (.remote a.status text) := by
  intro h
  let a : Answer := ⟨500, [Text.Utf8.encode "err".toList], .broken [.io .unexpectedEnd], .utf8⟩
  obtain ⟨x, c, r, hx, hc, hr, ha⟩ := exists_request_answeredBy a
  have htold : ((answeredBy a).perform 0 (.read .any)).1 =
      (Exchange.refusal? r.url a).elim .nothing .failed :=
    perform_of_execute hx rfl (execute_of_refused hc ha rfl hr)
  obtain ⟨text, hremote⟩ := h _ 0 x c r a (.read .any) .get none hx hc ha rfl nofun rfl hr
  rw [hremote] at htold
  exact nomatch htold

end Session

end LiveTree
