import LiveTree.Proofs.Session.Refusals
import LiveTree.Proofs.Traffic.Limits

namespace LiveTree

namespace Exchange

variable {t u : Traffic} {n : Network} {result : DialResult}

/-- A connection changes neither the budget nor the deadlines of the requests issued so far. -/
theorem connect_keeps (h : connect t n = some (result, u)) :
    u.budget = t.budget ∧ u.deadlines = t.deadlines := by
  obtain ⟨dialled, hdialled, h⟩ := Option.bind_eq_some_iff.1 h
  obtain ⟨waited, hwaited, h⟩ := Option.bind_eq_some_iff.1 h
  obtain ⟨finished, hfinished, h⟩ := Option.bind_eq_some_iff.1 h
  obtain ⟨d, -, h⟩ := Option.bind_eq_some_iff.1 h
  obtain ⟨⟨ended, allowance⟩, -, h⟩ := Option.bind_eq_some_iff.1 h
  obtain ⟨-, rfl⟩ := Prod.mk.inj (Option.some.inj h)
  obtain ⟨-, rfl⟩ := Traffic.dial?_eq_some hdialled
  obtain ⟨now, -, rfl⟩ := Traffic.wait?_eq_some hwaited
  obtain ⟨d, -, -, rfl⟩ := Traffic.finish?_eq_some hfinished
  exact ⟨rfl, rfl⟩

theorem traffic_sendConnected (t : Traffic) (n : Network) (r : Request) :
    (sendConnected t n r).traffic = t := by
  rw [sendConnected]
  split <;> rfl

theorem send_keeps {issued : Traffic} (h : t.issue? = some issued) (n : Network) (r : Request) :
    (send t n r).traffic.budget = issued.budget ∧
      (send t n r).traffic.deadlines = issued.deadlines := by
  rw [send, h]
  simp only
  split
  · exact ⟨rfl, rfl⟩
  · cases hconnect : connect issued n with
    | none => exact ⟨rfl, rfl⟩
    | some ended =>
        obtain ⟨result, u⟩ := ended
        have hu := connect_keeps hconnect
        cases result with
        | connected => simpa only [traffic_sendConnected] using hu
        | refused | timedOut | nothing => exact hu

theorem budget_send (t : Traffic) (n : Network) (r : Request) :
    (send t n r).traffic.budget = t.budget := by
  cases hissued : t.issue? with
  | none =>
      rw [send, hissued]
      rfl
  | some issued =>
      obtain ⟨deadline, -, rfl⟩ := Traffic.issue?_eq_some hissued
      exact (send_keeps hissued n r).1

end Exchange

namespace Session

variable {s t : Session} {h : Nat} {x : Handle} {op : Operation}

def budgets (s : Session) : List Span :=
  s.clients.map (·.traffic.budget)

theorem timeout?_eq (s : Session) (h : Nat) :
    s.timeout? h = s.handle? h >>= fun x => s.budgets[x.client]? := by
  rw [timeout?, client?]
  cases s.handle? h with
  | none => rfl
  | some x => simp [budgets]

structure Keeps (s t : Session) : Prop where
  handles : t.handles = s.handles
  budgets : t.budgets = s.budgets

theorem budgets_modify {clients : List Client} {i : Nat} {f : Client → Client} {g : Span → Span}
    (h : ∀ c, clients[i]? = some c → (f c).traffic.budget = g c.traffic.budget) :
    (clients.modify i f).map (·.traffic.budget) =
      (clients.map (·.traffic.budget)).modify i g := by
  refine List.ext_getElem? fun j => ?_
  by_cases hj : i = j
  · subst hj
    cases hc : clients[i]? with
    | none => simp [hc]
    | some c => simp [hc, h c hc]
  · simp [hj]

theorem keeps_send (s : Session) (x : Handle) (r : Request) : Keeps s (s.send x r).2 := by
  rw [send]
  cases hc : s.clients[x.client]? with
  | none => exact ⟨rfl, rfl⟩
  | some c =>
      refine ⟨rfl, (budgets_modify fun d hd => ?_).trans (List.modify_id _ _)⟩
      obtain rfl := Option.some.inj (hc.symm.trans hd)
      exact Exchange.budget_send _ _ _

theorem keeps_execute (s : Session) (x : Handle) (m : Method) (body : Option (List UInt8)) :
    Keeps s (s.execute x m body).2 := by
  rw [execute]
  split
  · exact ⟨rfl, rfl⟩
  · exact s.keeps_send x _

def Result.number? : Result → Option Nat
  | .handle n => some n
  | _ => none

def Operation.budget? : Operation → Option Span
  | .setTimeout d => some d
  | _ => none

/-- An operation at a handle derives a new one: it is asked to, or it pushes a value and is told the
key of it. -/
inductive Derives (s : Session) (x : Handle) : Operation → Derivation → Prop
  | derive (d : Derivation) : Derives s x (.derive d) d
  | push (j : Json) (body : List UInt8) (name : String)
      (hbody : (s.execute x .post (some (bodyOf j))).1 = .done body)
      (hname : PushedKey.ofBytes body = .ok name) : Derives s x (.push j) (.child name)

inductive Effect (s : Session) (h : Nat) (x : Handle) : Operation → Result → Session → Prop
  | data {op : Operation} {r : Result} {t : Session} (hop : op.exchange?.isSome = true)
      (hr : r.number? = none) (hk : Keeps s t) : Effect s h x op r t
  | allowance (a : Allowance) {t : Session} (hk : Keeps s t) :
      Effect s h x (.setAllowance a) .done t
  | budget (d : Span) {t : Session} (hh : t.handles = s.handles)
      (hb : t.budgets = s.budgets.modify x.client fun _ => d) : Effect s h x (.setTimeout d) .done t
  | handle {op : Operation} {r : Result} {t : Session} (y : Handle) (hop : op.exchange? = none)
      (hset : op.budget? = none) (hr : r.number? = none)
      (hh : t.handles = s.handles.set h y) (hc : y.client = x.client)
      (hd : x.dropped = true → y.dropped = true) (hb : t.budgets = s.budgets) : Effect s h x op r t
  | derived {op : Operation} {t : Session} (d : Derivation) (hd : Derives s x op d)
      (hh : t.handles = s.handles ++ [Session.derived x d]) (hb : t.budgets = s.budgets) :
      Effect s h x op (.handle s.handles.length) t

theorem perform_of_none (hx : s.target? h op = none) : s.perform h op = (.noHandle, s) := by
  rw [perform, hx]

theorem number?_result {α : Type} {f : α → Result} (hf : ∀ a, (f a).number? = none)
    (o : Outcome α) : (result o f).number? = none := by
  cases o with
  | done a => exact hf a
  | failed | nothing | panicked => rfl

theorem number?_ofExcept {α : Type} {f : α → Result} (hf : ∀ a, (f a).number? = none)
    (r : Except Failure α) : (ofExcept r f).number? = none := by
  cases r with
  | ok a => exact hf a
  | error => rfl

theorem effect_push (s : Session) (h : Nat) (x : Handle) (j : Json) :
    Effect s h x (.push j) (s.push x j).1 (s.push x j).2 := by
  have hkeeps := s.keeps_execute x .post (some (bodyOf j))
  rw [push]
  cases he : s.execute x .post (some (bodyOf j)) with
  | mk outcome t =>
  rw [he] at hkeeps
  cases outcome with
  | failed | nothing | panicked => exact .data rfl rfl hkeeps
  | done body =>
      cases hkey : PushedKey.ofBytes body with
      | error f => simpa only [hkey] using .data rfl rfl hkeeps
      | ok name =>
          have hn : t.handles.length = s.handles.length := by rw [hkeeps.handles]
          simp only [hkey, addDerived, hn]
          refine .derived (.child name) (.push j body name (by rw [he]) hkey) ?_ hkeeps.budgets
          rw [← hkeeps.handles]
          rfl

theorem effect_openWatch (s : Session) (h : Nat) (x : Handle) (capacity : Option Nat)
    (replicating : Bool) : Effect s h x (.openWatch capacity replicating)
      (s.openWatch h x capacity replicating).1 (s.openWatch h x capacity replicating).2 := by
  rw [openWatch]
  cases x.location.request .get Request.eventStream (s.userAgent x) none with
  | error f => exact .handle _ rfl rfl rfl rfl rfl id rfl
  | ok r =>
      have hkeeps := s.keeps_send x r
      simp only
      split
      · let opened := (step x.watch (.openCall capacity replicating)).rest
        let y : Handle := { x with watch := goOn opened x.watch.calls.length (s.send x r).1 }
        refine .handle y rfl rfl ?_ ?_ rfl id hkeeps.budgets
        · dsimp only
          split <;> rfl
        · rw [← hkeeps.handles]
          rfl
      · exact .handle _ rfl rfl rfl rfl rfl id rfl

theorem effect_receive (hx : s.handles[h]? = some x) (call : Nat) :
    Effect s h x (.receive call) (s.receive h x call).1 (s.receive h x call).2 := by
  rw [receive]
  split
  · refine .handle x rfl rfl rfl ?_ rfl id rfl
    obtain ⟨hl, rfl⟩ := List.getElem?_eq_some_iff.1 hx
    exact (List.set_getElem_self hl).symm
  next c hc =>
    split
    · exact .handle _ rfl rfl rfl rfl rfl id rfl
    · refine .handle _ rfl rfl ?_ rfl rfl id rfl
      split <;> rfl

theorem handle?_eq_some : s.handle? h = some x ↔ s.handles[h]? = some x ∧ x.dropped = false := by
  rw [handle?, Option.filter_eq_some_iff]
  simp

theorem handle?_setHandle {y : Handle} (hx : s.handle? h = some x) (hy : y.dropped = false) :
    (s.setHandle h y).handle? h = some y := by
  have hl := (List.getElem?_eq_some_iff.1 (handle?_eq_some.1 hx).1).1
  exact handle?_eq_some.2 ⟨List.getElem?_set_self hl, hy⟩

theorem target?_eq_some (hx : s.target? h op = some x) : s.handles[h]? = some x := by
  cases op with
  | receive | dropReceiver => exact hx
  | adjust | derive | setTimeout | setAllowance | read | replace | merge | remove | push | openWatch
  | awaitWatch | stop | drop => exact (handle?_eq_some.1 hx).1

theorem effect_write (hop : op.exchange?.isSome = true) (s : Session) (h : Nat) (x : Handle)
    (m : Method) (body : Option (List UInt8)) :
    Effect s h x op (s.write x m body).1 (s.write x m body).2 := by
  have hkeeps := s.keeps_execute x m body
  rw [write]
  generalize s.execute x m body = e at hkeeps
  exact .data hop (number?_result (fun _ => rfl) e.1) hkeeps

theorem effect_read (s : Session) (h : Nat) (x : Handle) (shape : Json.Shape) :
    Effect s h x (.read shape) (s.read x shape).1 (s.read x shape).2 := by
  have hkeeps := s.keeps_execute x .get none
  rw [read]
  generalize s.execute x .get none = e at hkeeps
  exact .data rfl (number?_result (fun _ => number?_ofExcept (f := .value) (fun _ => rfl) _) e.1)
    hkeeps

theorem perform_effect (hx : s.target? h op = some x) :
    Effect s h x op (s.perform h op).1 (s.perform h op).2 := by
  rw [perform, hx]
  cases op with
  | adjust a => exact .handle _ rfl rfl rfl rfl rfl id rfl
  | derive d => exact .derived d (.derive d) rfl rfl
  | setTimeout d => exact .budget d rfl (budgets_modify fun _ _ => rfl)
  | setAllowance a =>
      exact .allowance a ⟨rfl, (budgets_modify fun _ _ => rfl).trans (List.modify_id _ _)⟩
  | read shape => exact s.effect_read h x shape
  | replace j => exact effect_write rfl s h x .put _
  | merge j => exact effect_write rfl s h x .patch _
  | remove => exact effect_write rfl s h x .delete none
  | push j => exact s.effect_push h x j
  | openWatch capacity replicating => exact s.effect_openWatch h x capacity replicating
  | awaitWatch call =>
      refine .handle _ rfl rfl ?_ rfl rfl id rfl
      simp only [awaitWatch]
      split
      · exact number?_ofExcept (fun _ => rfl) _
      · rfl
  | stop times => exact .handle _ rfl rfl rfl rfl rfl id rfl
  | receive call => exact effect_receive (target?_eq_some hx) call
  | dropReceiver call => exact .handle _ rfl rfl rfl rfl rfl id rfl
  | drop => exact .handle _ rfl rfl rfl rfl rfl (fun _ => rfl) rfl

/-- What an operation derives is the result of it, and comes behind all other handles. -/
theorem perform_of_derives {d : Derivation} (hx : s.handle? h = some x) (hd : Derives s x op d) :
    (s.perform h op).1 = .handle s.handles.length ∧
      (s.perform h op).2.handles = s.handles ++ [derived x d] := by
  cases hd with
  | derive =>
      simp only [perform, target?, hx]
      exact ⟨rfl, rfl⟩
  | push j body name hbody hname =>
      have hkeeps := s.keeps_execute x .post (some (bodyOf j))
      simp only [perform, target?, hx, push]
      generalize s.execute x .post (some (bodyOf j)) = e at hbody hkeeps
      obtain ⟨outcome, t⟩ := e
      obtain rfl : outcome = .done body := hbody
      have hhandles : t.handles = s.handles := hkeeps.handles
      simp only [hname, addDerived, addHandle, hhandles, and_self]

theorem query_ofAddress {address : String} {l : Location}
    (hl : Location.ofAddress address = .ok l) : l.query = Query.empty := by
  unfold Location.ofAddress at hl
  dsimp only at hl
  split at hl
  · exact Except.ok.inj hl ▸ rfl
  · exact nomatch hl

theorem connect_eq_ok {address : String} {settings : Settings}
    (ht : s.connect address settings = .ok t) : ∃ l, Location.ofAddress address = .ok l ∧
      t = { s with
        clients := s.clients ++ [⟨settings, Traffic.new settings.timeout⟩]
        handles := s.handles ++ [⟨l, s.clients.length, Watch.System.new, false⟩] } := by
  rw [connect] at ht
  cases hl : Location.ofAddress address with
  | error f =>
      rw [hl] at ht
      exact nomatch ht
  | ok location =>
      cases hp : settings.problem? with
      | some f =>
          rw [hl, newClient, hp] at ht
          exact nomatch ht
      | none =>
          rw [hl, newClient, hp] at ht
          exact ⟨location, rfl, (Except.ok.inj ht).symm⟩

theorem exists_handle_of_connect {address : String} {settings : Settings}
    (ht : s.connect address settings = .ok t) : ∃ x : Handle, x.client = s.clients.length ∧
      x.location.query = Query.empty ∧ x.watch = Watch.System.new ∧ x.dropped = false ∧
        t.handles = s.handles ++ [x] ∧ t.budgets = s.budgets ++ [settings.timeout] := by
  obtain ⟨l, hl, rfl⟩ := connect_eq_ok ht
  refine ⟨_, rfl, query_ofAddress hl, rfl, rfl, rfl, ?_⟩
  rw [budgets, List.map_append]
  rfl

end Session

end LiveTree
