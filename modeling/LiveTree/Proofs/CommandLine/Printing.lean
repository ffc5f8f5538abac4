import LiveTree.Proofs.CommandLine.Opening
import LiveTree.Proofs.Event.Lines

namespace LiveTree.CommandLine

open Watch (Delivery expected stamped eventOf? failureOf?)

section Loop

variable {a : Answer} {replicating : Bool} {taken : Nat} {s : Session} {closed : Bool}

/-- What is printed and logged for some deliveries, and the end that they bring. Where they bring
none, it depends on the stream. -/
def shown (closed : Bool) (received : List Request) : String → List Delivery → Report
  | printed, [] =>
      if closed then ⟨printed, closingLog none, .success, received⟩
      else ⟨printed, [], .never, received⟩
  | printed, .ok e :: rest => shown closed received (printed ++ line e.toText) rest
  | printed, .error f :: _ => ⟨printed, closingLog (some f), .failure (.failure f), received⟩

theorem printDeliveries_eq (fuel : Nat) (h : s.Watches a replicating taken)
    (hf : ((expected replicating a.items).drop taken).length < fuel)
    (hclosed : closed = true ↔ a.Ends) (printed : String) :
    printDeliveries 0 fuel s printed =
      shown closed s.received printed ((expected replicating a.items).drop taken) := by
  induction fuel generalizing s taken printed with
  | zero => omega
  | succ fuel ih =>
      obtain ⟨d, t, hdrop, hperform, hwatches, hreceived⟩ |
        ⟨hdrop, r, t, hperform, hreceived, hends, hopen⟩ := h.receive
      · rw [hdrop, List.length_cons] at hf
        rw [printDeliveries, root, hperform, hdrop]
        cases d with
        | ok e =>
            rw [shown, ← hreceived]
            exact ih hwatches (by omega) _
        | error f =>
            rw [shown, ← hreceived]
      · rw [printDeliveries, root, hperform, hdrop, shown, ← hreceived]
        by_cases ha : a.Ends
        · rw [hends ha, if_pos (hclosed.2 ha)]
        · rw [hopen ha, if_neg (fun hc => ha (hclosed.1 hc))]

theorem length_lt_deliveryBound (h : s.Watches a replicating taken) :
    ((expected replicating a.items).drop taken).length < deliveryBound s 0 := by
  obtain ⟨x, u, c, p, hx, hw, hruns, rfl, rfl⟩ := h
  have hget := (Session.handle?_eq_some.1 hx).1
  have hcall : s.call? root 0 = some c := by
    rw [Session.call?, root, hget, Option.bind_eq_bind, Option.bind_some, hw]
    rfl
  have hrest := p.length_toCome_le
  have hsize := Watch.length_toCome_lt p.source
  rw [deliveryBound, hcall, hruns.carries.whole_of_undisturbed hruns.receiver,
    List.drop_append_of_le_length hruns.behind, List.length_append]
  simp only [hruns.point, Watch.Channel.waiting]
  omega

theorem watch_eq {capacity : Nat} {t : Session} {r : Request}
    (ho : s.perform root (.openWatch (some capacity) replicating) = (.call 0, t))
    (ht : t.Watches a replicating 0) (hr : t.received = [r]) (hclosed : closed = true ↔ a.Ends) :
    watch s capacity replicating =
      (shown closed [r] "" (expected replicating a.items)).behind (openingLog s .done) := by
  obtain ⟨u, hawait, hu, hreceived⟩ := ht.await
  have hprint := printDeliveries_eq _ hu (length_lt_deliveryBound hu) hclosed ""
  rw [hreceived, hr, List.drop_zero] at hprint
  simp only [watch, ho]
  rw [root, hawait]
  exact congrArg (Report.behind · _) hprint

end Loop

section Lines

def linesOf (events : List Event) : List Char :=
  events.flatMap fun e => e.render ++ ['\n']

theorem toList_line (e : Event) : (line e.toText).toList = e.render ++ ['\n'] := by
  rw [line, Event.toText, String.toList_append, String.toList_ofList]
  rfl

theorem splitOn_linesOf (events : List Event) :
    Text.splitOn '\n' (linesOf events) = events.map Event.render ++ [[]] := by
  induction events with
  | nil => rfl
  | cons e events ih =>
      have hcons : linesOf (e :: events) = e.render ++ '\n' :: linesOf events := by simp [linesOf]
      rw [hcons, Text.splitOn_append_sep, Text.splitOn_of_not_mem e.lineFeed_not_mem_render, ih]
      rfl

theorem shown_events (closed : Bool) (received : List Request) (events : List Event)
    (f : Option Failure) (printed : String) :
    let report := shown closed received printed (events.map .ok ++ f.toList.map .error)
    report.output.toList = printed.toList ++ linesOf events ∧
      report.log = f.elim (if closed then closingLog none else []) (fun f => closingLog (some f)) ∧
      report.ending = f.elim (if closed then .success else .never) (fun f => .failure (.failure f)) ∧
        report.received = received := by
  induction events generalizing printed with
  | nil => cases f <;> cases closed <;> simp [shown, linesOf]
  | cons e events ih =>
      have hrest := ih (printed ++ line e.toText)
      simp only [List.map_cons, List.cons_append, shown]
      simpa [String.toList_append, toList_line, linesOf] using hrest

end Lines

section Ends

variable {a : Answer} {chain : Chain}

theorem exists_final_of_broken (h : a.ending = .broken chain) :
    ∃ i ∈ a.items, Stream.isFinal i = true := by
  obtain ⟨hitems, hstatus⟩ := Stream.Transcript.ofBytes_eq a.pieces.flatten
  have hexplained : (Stream.Transcript.ofBytes a.pieces.flatten).IsExplained :=
    Stream.Transcript.IsExplained.foldl_addLine (fun hs => absurd rfl hs) _
  simp only [Answer.items, h]
  split
  · exact ⟨_, List.mem_append_right _ (List.mem_singleton_self _), rfl⟩
  · next hs =>
      rw [← hitems]
      exact hexplained (hstatus ▸ hs)

theorem failureOf?_eq_none_iff :
    a.items.findSome? failureOf? = none ↔ ∀ i ∈ a.items, Stream.isFinal i = false := by
  simp only [List.findSome?_eq_none_iff, ← Watch.failureOf?_isSome, Option.isSome_eq_false_iff,
    Option.isNone_iff_eq_none]

theorem elim_congr_of_quiet {α : Type} {closed : Bool} (hclosed : closed = true ↔ a.Ends) (x y : α)
    (g : Failure → α) :
    (a.items.findSome? failureOf?).elim (if closed then x else y) g =
      (a.items.findSome? failureOf?).elim (if a.ending = .held then y else x) g := by
  cases hf : a.items.findSome? failureOf? with
  | some f => rfl
  | none =>
      have hquiet := failureOf?_eq_none_iff.1 hf
      have hends : a.Ends ↔ a.ending ≠ .held :=
        ⟨fun ha => ha.resolve_right (by
            rintro ⟨i, hi, hfinal⟩
            simp [hquiet i hi] at hfinal), .inl⟩
      by_cases hheld : a.ending = .held
      · have hopen : ¬ closed = true := fun hc => hends.1 (hclosed.1 hc) hheld
        simp only [Option.elim_none, if_pos hheld, if_neg hopen]
      · simp only [Option.elim_none, if_neg hheld, if_pos (hclosed.2 (hends.2 hheld))]

theorem elim_eq_success_iff : (a.items.findSome? failureOf?).elim
    (if a.ending = .held then .never else .success) (fun f => .failure (.failure f)) = End.success ↔
      a.ending = .closed ∧ ∀ i ∈ a.items, Stream.isFinal i = false := by
  rw [← failureOf?_eq_none_iff]
  cases hf : a.items.findSome? failureOf? with
  | some f => simp
  | none =>
      cases he : a.ending with
      | closed | held => simp
      | broken chain =>
          obtain ⟨i, hi, hfinal⟩ := exists_final_of_broken he
          simp [failureOf?_eq_none_iff.1 hf i hi] at hfinal

end Ends

theorem isSome_snapshot {replicating : Bool} {events : List Event} {event : Event}
    (h : event ∈ stamped (if replicating then some Replica.new else none) events) :
    event.snapshot.isSome = replicating := by
  obtain ⟨k, hk, rfl⟩ := List.mem_mapIdx.1 h
  cases replicating <;> rfl

/-- Arguments that ask for a watch of a location whose request the network takes, and that leave some
time for it. -/
def Asks (n : Network) (e : Environment) (args : List String) (replicating : Bool) (l : Location)
    (r : Request) : Prop :=
  ∃ i s x, parse args = .ok i ∧ i.command = .watch replicating ∧
    (settingsOf e i).timeout ≠ Span.zero ∧ sessionOf n e i = .ok s ∧ s.handle? root = some x ∧
      x.location = l ∧ l.request .get Request.eventStream (s.userAgent x) none = .ok r ∧
        r.isSendable = true

variable {e : Environment} {args : List String} {a : Answer} {replies : List Reply}
  {replicating : Bool} {l : Location} {r : Request}

theorem Asks.run_eq (h : Asks (.scripted (.answer a :: replies)) e args replicating l r)
    (hs : Exchange.isSuccess a.status = true) {closed : Bool} (hclosed : closed = true ↔ a.Ends) :
    run (.scripted (.answer a :: replies)) e args =
      ((shown closed [r] "" (expected replicating a.items)).behind
        [⟨.info, .watch, "[watch] streaming " ++ r.url.toText⟩,
          ⟨.info, .command, "Watching " ++ l.address ++ " (Ctrl-C to stop)"⟩]).behind
        (Settings.log e.settings) := by
  obtain ⟨i, s, x, hargs, hcommand, htimeout, hsession, hx, rfl, hr, hsendable⟩ := h
  have hfresh := isFresh_sessionOf hsession
  obtain ⟨hclock, hbudget⟩ := (isReadable_settingsOf hargs e).nanos
  have hcapacity : some (settingsOf e i).watchBuffer ≠ some 0 := by
    rw [watchBuffer_settingsOf]
    decide
  obtain ⟨t, hperform, hwatches, hreceived⟩ :=
    hfresh.openWatch hx hr hsendable hclock (hbudget htimeout) hs hcapacity
  have hlog : openingLog s .done = [⟨.info, .watch, "[watch] streaming " ++ r.url.toText⟩,
      ⟨.info, .command, "Watching " ++ x.location.address ++ " (Ctrl-C to stop)"⟩] := by
    simp only [openingLog, hx, Option.bind_eq_bind, Option.bind_some, hr, Except.toOption, address,
      Option.elim_some]
  simp only [run, hargs, hsession, runCommand, hcommand]
  rw [watch_eq hperform hwatches hreceived hclosed, hlog]

/-- Every change that the stream tells is printed, in its order and on a line of its own, with the
value that all changes up to it make if that is wanted; nothing else is. The log tells of the watch
and of its end alone. Then the command ends with the failure that the stream ends with, and with
success exactly if the server has closed the stream before any. -/
theorem watch_prints (h : Asks (.scripted (.answer a :: replies)) e args replicating l r)
    (hs : Exchange.isSuccess a.status = true) :
    let report := run (.scripted (.answer a :: replies)) e args
    let replica := if replicating then some Replica.new else none
    let events := stamped replica (a.items.filterMap eventOf?)
    report.received = [r] ∧
      Text.splitOn '\n' report.output.toList = events.map Event.render ++ [[]] ∧
      (∀ event ∈ events, event.snapshot.isSome = replicating) ∧
      report.log = Settings.log e.settings ++
        ([⟨.info, .watch, "[watch] streaming " ++ r.url.toText⟩,
          ⟨.info, .command, "Watching " ++ l.address ++ " (Ctrl-C to stop)"⟩] ++
        (a.items.findSome? failureOf?).elim (if a.ending = .held then [] else closingLog none)
          (fun f => closingLog (some f))) ∧
      report.ending = (a.items.findSome? failureOf?).elim
        (if a.ending = .held then .never else .success) (fun f => .failure (.failure f)) ∧
      (report.ending = .success ↔
        a.ending = .closed ∧ ∀ i ∈ a.items, Stream.isFinal i = false) := by
  intro report replica events
  obtain ⟨closed, hclosed⟩ : ∃ closed : Bool, closed = true ↔ a.Ends := by
    by_cases ha : a.Ends
    · exact ⟨true, iff_of_true rfl ha⟩
    · exact ⟨false, iff_of_false Bool.false_ne_true ha⟩
  have hreport := h.run_eq hs hclosed
  obtain ⟨houtput, hlog, hending, hreceived⟩ :=
    shown_events closed [r] events (a.items.findSome? failureOf?) ""
  rw [elim_congr_of_quiet hclosed] at hlog hending
  have hend : report.ending = (a.items.findSome? failureOf?).elim
      (if a.ending = .held then .never else .success) (fun f => .failure (.failure f)) :=
    (congrArg Report.ending hreport).trans hending
  refine ⟨(congrArg Report.received hreport).trans hreceived, ?_, fun event => isSome_snapshot, ?_,
    hend, ?_⟩
  · have hprinted := (congrArg (fun r => r.output.toList) hreport).trans houtput
    rw [hprinted]
    exact splitOn_linesOf events
  · rw [← hlog]
    exact congrArg Report.log hreport
  · rw [hend]
    exact elim_eq_success_iff

/-- The location of a session and the request of its watch, if it can be sent. -/
def asked? (s : Session) : Option (Location × Request) := do
  let x ← s.handle? root
  let r ← (x.location.request .get Request.eventStream (s.userAgent x) none).toOption
  if r.isSendable then some (x.location, r) else none

theorem asks_of_asked {n : Network} {i : Invocation} (hargs : parse args = .ok i)
    (hcommand : i.command = .watch replicating) (htimeout : (settingsOf e i).timeout ≠ Span.zero)
    (hs : (sessionOf n e i).toOption.bind asked? = some (l, r)) :
    Asks n e args replicating l r := by
  obtain ⟨s, hsession, hs⟩ := Option.bind_eq_some_iff.1 hs
  obtain ⟨x, hx, hs⟩ := Option.bind_eq_some_iff.1 hs
  obtain ⟨q, hq, hs⟩ := Option.bind_eq_some_iff.1 hs
  split at hs
  · next hsendable =>
      obtain ⟨rfl, rfl⟩ := Prod.mk.inj (Option.some.inj hs)
      exact ⟨i, s, x, hargs, hcommand, htimeout, Session.eq_ok_of_toOption hsession, hx, rfl,
        Session.eq_ok_of_toOption hq, hsendable⟩
  · exact nomatch hs

/-- Two changes in pieces that part a record, then the end of the authorization, and more that comes
too late; and what is shown of the log. -/
theorem watch_prints_mirrored :
    let body := Text.Utf8.encode
      ("event: put\ndata: \x7b\"path\":\"/\",\"data\":\x7b\"a\":1\x7d\x7d\n\n" ++
      "event: keep-alive\ndata: null\n\n" ++
      "event: patch\ndata: \x7b\"path\":\"/\",\"data\":\x7b\"b\":\"\\n\"\x7d\x7d\n\n" ++
      "event: auth_revoked\ndata: expired\n\nevent: put\n").toList
    let a : Answer := ⟨200, [body.take 20, body.drop 20], .closed, .utf8⟩
    let report := run (.scripted [.answer a]) ⟨none, ⟨some "soon", none⟩⟩
      ["http://db.test", "watch", "--mirror"]
    (Text.splitOn '\n' report.output.toList).map String.ofList =
        ["\x7b\"kind\":\"put\",\"path\":\"/\",\"data\":\x7b\"a\":1\x7d,\"snapshot\":\x7b\"a\":1\x7d\x7d",
          "\x7b\"kind\":\"patch\",\"path\":\"/\",\"data\":\x7b\"b\":\"\\n\"\x7d," ++
            "\"snapshot\":\x7b\"a\":1,\"b\":\"\\n\"\x7d\x7d", ""] ∧
      (report.log.filter Log.Line.isShown).map Log.Line.toText =
        [" WARN firebase_http::client::config: Ignoring invalid FIREBASE_TIMEOUT_MS=\"soon\"",
          " INFO firebase_http::client::watch: [watch] streaming http://db.test/.json",
          " WARN firebase_http::client::watch: [watch] stream ended with error: " ++
            "server revoked authorization for the event stream: expired",
          " WARN firebase: Watch ended: " ++
            "server revoked authorization for the event stream: expired"] ∧
      report.ending = .failure (.failure (.authRevoked (some "expired"))) := by
  intro body a report
  let i : Invocation := ⟨"http://db.test", none, false, none, .watch true⟩
  let e : Environment := ⟨none, ⟨some "soon", none⟩⟩
  obtain ⟨⟨l, r⟩, hasked, htexts⟩ := Option.map_eq_some_iff.1
    (show ((sessionOf (.scripted [.answer a]) e i).toOption.bind asked?).map
        (fun p => (p.1.address, p.2.url.toText)) = some ("http://db.test", "http://db.test/.json") by
      decide +kernel)
  obtain ⟨haddress, hurl⟩ := Prod.mk.inj htexts
  have hasks : Asks (.scripted [.answer a]) e ["http://db.test", "watch", "--mirror"] true l r :=
    asks_of_asked (i := i) rfl rfl (by decide +kernel) hasked
  obtain ⟨-, hlines, -, hlog, hending, -⟩ := watch_prints hasks (by decide)
  refine ⟨?_, ?_, ?_⟩
  · rw [hlines]
    decide +kernel
  · rw [hlog, haddress, hurl]
    decide +kernel
  · rw [hending]
    decide +kernel

end LiveTree.CommandLine
