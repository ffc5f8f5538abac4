import LiveTree.Proofs.CommandLine.Watching
import LiveTree.Proofs.Session.Environments

namespace LiveTree.CommandLine

section Timeouts

def IsReadable (d : Span) : Prop :=
  ∃ m < 0x10000000000000000, d = Span.ofMillis m

/-- The clock can tell when such a time is over, and if it is any it is enough to connect. -/
theorem IsReadable.nanos {d : Span} (h : IsReadable d) :
    (d.nanos : Int) < Instant.limit ∧ (d ≠ Span.zero → 1 < d.nanos) := by
  obtain ⟨m, hm, rfl⟩ := h
  have hnanos : (Span.ofMillis m).nanos = m * 1000000 :=
    Span.nanos_ofNanos (by rw [secondsLimit, nanosPerSecond]; omega)
  have hlimit : Instant.limit = 0x8000000000000000 * 1000000000 := rfl
  refine ⟨by rw [hnanos, hlimit]; omega, fun hz => ?_⟩
  have hpos : m ≠ 0 := by
    rintro rfl
    exact hz rfl
  omega

theorem lt_of_parseMillis {text : List Char} {m : Nat} (h : Settings.parseMillis text = some m) :
    m < 0x10000000000000000 := by
  obtain ⟨digits, -, -, -, -, hlt⟩ := Settings.parseMillis_eq_some_iff.1 h
  exact hlt

theorem isReadable_ofEnvironment (e : Settings.Environment) :
    IsReadable (Settings.ofEnvironment e).timeout := by
  by_cases h : ∃ m, e.GivesMillis m
  · obtain ⟨m, hm⟩ := h
    have htimeout := Settings.timeout_of_gives hm
    obtain ⟨raw, -, digits, -, -, -, -, hlt⟩ := hm
    exact ⟨m, hlt, htimeout⟩
  · have hdefault : Settings.default.timeout = Span.ofMillis 30000 := by decide
    have htimeout := Settings.timeout_of_not_gives (not_exists.1 h)
    exact ⟨30000, by decide, htimeout.trans hdefault⟩

/-- The number of milliseconds that an option gives, if it does, has been read from a text. -/
def IsBounded (timeout : Option Nat) : Prop :=
  ∀ m, timeout = some m → m < 0x10000000000000000

theorem isBounded_setOption {o p : Options} {name : String} {value : Option String}
    (ho : IsBounded o.timeoutMillis) (h : setOption o name value = .ok p) :
    IsBounded p.timeoutMillis := by
  unfold setOption at h
  split at h
  · rw [setAuth] at h
    split at h
    · exact nomatch h
    · obtain rfl := Except.ok.inj h
      exact ho
  · rw [setTimeout] at h
    split at h
    · exact nomatch h
    · next n hn =>
        split at h
        · exact nomatch h
        · obtain rfl := Except.ok.inj h
          intro m hm
          obtain rfl := Option.some.inj hm
          exact lt_of_parseMillis hn
  · rw [setShallow] at h
    split at h
    · exact nomatch h
    · obtain rfl := Except.ok.inj h
      exact ho
  · exact nomatch h

theorem exists_options {o : Options} {name : String} {value : Option String} {rest : List String}
    {i : Invocation} (ho : IsBounded o.timeoutMillis)
    (h : (setOption o name value >>= fun o => parseFrom o rest) = .ok i) :
    ∃ p : Options, IsBounded p.timeoutMillis ∧ parseFrom p rest = .ok i := by
  cases hset : setOption o name value with
  | error f =>
      rw [hset] at h
      exact nomatch h
  | ok p =>
      rw [hset] at h
      exact ⟨p, isBounded_setOption ho hset, h⟩

theorem isBounded_parseFrom {o : Options} {args : List String} {i : Invocation}
    (h : parseFrom o args = .ok i) (ho : IsBounded o.timeoutMillis) :
    IsBounded i.timeoutMillis := by
  fun_induction parseFrom o args with
  | case1 | case2 | case3 | case4 | case6 | case7 | case11 => exact nomatch h
  | case5 _ _ _ _ _ _ _ _ _ ih | case8 _ _ _ _ _ _ _ ih | case9 _ _ _ _ _ _ ih =>
      obtain ⟨p, hp, hrest⟩ := exists_options ho h
      exact ih p hrest hp
  | case10 o _ _ _ _ c _ =>
      cases c with
      | error f => exact nomatch h
      | ok c =>
          change finish o c = .ok i at h
          rw [finish] at h
          split at h
          · exact nomatch h
          · obtain rfl := Except.ok.inj h
            exact ho
  | case12 _ _ _ _ _ _ _ ih => exact ih h ho

theorem isReadable_settingsOf {args : List String} {i : Invocation} (h : parse args = .ok i)
    (e : Environment) : IsReadable (settingsOf e i).timeout := by
  have hbounded : IsBounded i.timeoutMillis := isBounded_parseFrom h nofun
  rw [settingsOf]
  cases hm : i.timeoutMillis with
  | none => exact isReadable_ofEnvironment e.settings
  | some m => exact ⟨m, hbounded m hm, rfl⟩

end Timeouts

section Sessions

variable {n : Network} {e : Environment} {i : Invocation} {s t : Session} {x : Handle}
  {r : Request} {a : Answer} {replies : List Reply} {replicating : Bool}

/-- A session with one client, as new as a connection makes it, and one handle without watches. -/
structure IsFresh (n : Network) (budget : Span) (s : Session) : Prop where
  clients : ∃ c, s.clients = [c] ∧ c.traffic = Traffic.new budget
  handles : ∃ x, s.handles = [x] ∧ x.client = 0 ∧ x.watch = Watch.System.new ∧ x.dropped = false
  network : s.network = n
  received : s.received = []

theorem isFresh_connect {address : String} {settings : Settings}
    (h : (Session.start n).connect address settings = .ok s) : IsFresh n settings.timeout s := by
  obtain ⟨l, -, rfl⟩ := Session.connect_eq_ok h
  exact ⟨⟨_, rfl, rfl⟩, ⟨_, rfl, rfl, rfl, rfl⟩, rfl, rfl⟩

theorem IsFresh.adjust {budget : Span} (h : IsFresh n budget s) (adjustment : Adjustment) :
    IsFresh n budget (s.perform root (.adjust adjustment)).2 := by
  obtain ⟨hclients, ⟨x, hx, hclient, hw, hd⟩, hnetwork, hreceived⟩ := h
  have htarget : s.target? root (.adjust adjustment) = some x := by
    simp [Session.target?, Session.handle?, hx, hd, root]
  let y : Handle := { x with location := x.location.updateQuery (·.adjust adjustment) }
  simp only [Session.perform, htarget]
  refine ⟨hclients, ⟨y, ?_, hclient, hw, hd⟩, hnetwork, hreceived⟩
  rw [Session.setHandle, hx]
  rfl

theorem isFresh_sessionOf (h : sessionOf n e i = .ok s) :
    IsFresh n (settingsOf e i).timeout s := by
  rw [sessionOf] at h
  cases ht : (Session.start n).connect i.url (settingsOf e i) with
  | error f =>
      rw [ht] at h
      exact nomatch h
  | ok t =>
      rw [ht] at h
      obtain rfl := Except.ok.inj h
      refine IsFresh.adjust ?_ _
      cases i.auth.or e.auth with
      | none => exact isFresh_connect ht
      | some token => exact (isFresh_connect ht).adjust _

theorem watchBuffer_settingsOf (e : Environment) (i : Invocation) :
    (settingsOf e i).watchBuffer = 100 := by
  have hsettings : (Settings.ofEnvironment e.settings).watchBuffer = 100 :=
    (Settings.others_withEnvironment ..).2
  unfold settingsOf
  split <;> exact hsettings

end Sessions

section Exchanges

variable {n : Network} {e : Environment} {i : Invocation} {s : Session} {x : Handle}
  {r : Request} {a : Answer} {replies : List Reply} {replicating : Bool} {budget : Span}

theorem IsFresh.handle (h : IsFresh n budget s) (hx : s.handle? root = some x) :
    x.client = 0 ∧ x.watch = Watch.System.new := by
  obtain ⟨y, hy, hclient, hw, -⟩ := h.handles
  have hget := (Session.handle?_eq_some.1 hx).1
  rw [hy] at hget
  obtain rfl : y = x := Option.some.inj hget
  exact ⟨hclient, hw⟩

theorem IsFresh.send (h : IsFresh (.scripted (.answer a :: replies)) budget s)
    (hx : s.handle? root = some x) (hsendable : r.isSendable = true)
    (hclock : (budget.nanos : Int) < Instant.limit) (hbudget : 1 < budget.nanos) :
    (s.send x r).1.outcome = Exchange.conclude r.url a ∧ (s.send x r).1.late = false ∧
      (s.send x r).2.received = [r] := by
  obtain ⟨c, hc, htraffic⟩ := h.clients
  have hget : s.clients[x.client]? = some c := by rw [hc, (h.handle hx).1]; rfl
  have hanswered : Exchange.Answered c.traffic s.network r a := by
    rw [htraffic, h.network]
    refine Exchange.answered_of_budget hsendable hbudget ?_
    rw [show (Traffic.new budget).now.nanos = 0 from rfl, Int.zero_add]
    exact hclock
  refine ⟨Session.outcome_of_answered hget hanswered, ?_⟩
  obtain ⟨-, issued, connected, rest, hissued, hconnected, hreply⟩ := hanswered
  simp [Session.send, hget, Exchange.send, hissued, hsendable, hconnected, Exchange.sendConnected,
    hreply, h.received, Session.setTraffic, Reply.isSilence]

theorem IsFresh.openWatch {capacity : Option Nat}
    (h : IsFresh (.scripted (.answer a :: replies)) budget s) (hx : s.handle? root = some x)
    (hr : x.location.request .get Request.eventStream (s.userAgent x) none = .ok r)
    (hsendable : r.isSendable = true) (hclock : (budget.nanos : Int) < Instant.limit)
    (hbudget : 1 < budget.nanos) (hstatus : Exchange.isSuccess a.status = true)
    (hc : capacity ≠ some 0) :
    ∃ t, s.perform root (.openWatch capacity replicating) = (.call 0, t) ∧
      t.Watches a replicating 0 ∧ t.received = [r] := by
  obtain ⟨houtcome, hlate, hreceived⟩ := h.send hx hsendable hclock hbudget
  rw [Exchange.conclude, if_pos hstatus] at houtcome
  rw [← hreceived]
  exact Session.openWatch_watches hx (h.handle hx).2 hc hr houtcome hlate

end Exchanges

end LiveTree.CommandLine
