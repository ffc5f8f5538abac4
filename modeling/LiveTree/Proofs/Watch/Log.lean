import LiveTree.Proofs.Watch.Coherence
import LiveTree.Proofs.Watch.Pumping

namespace LiveTree.Watch

/-- One delivery: the call it belongs to, the generation of the pump that made it, and the
generation that was current when it was made. -/
structure Entry where
  number : Nat
  generation : Nat
  current : Nat
  delivery : Delivery

namespace System

def pump? (s : System) (n : Nat) : Option Pump :=
  s.calls[n]? >>= Call.pump?

def sent (s : System) (n : Nat) : List Delivery :=
  (s.calls[n]?).elim [] fun c => c.channel.sent

def logged? (s : System) : Move → Option Entry
  | .call n m => do
      let c ← s.calls[n]?
      let p ← c.pump?
      let d ← c.delivers? m
      some ⟨n, p.generation, s.controller.generation, d⟩
  | _ => none

def log (s : System) : List Move → List Entry
  | [] => []
  | m :: moves =>
      match s.fire m with
      | none => []
      | some t => (s.logged? m).toList ++ t.log moves

def sentIn (n : Nat) (entries : List Entry) : List Delivery :=
  (entries.filter (·.number = n)).map Entry.delivery

end System

theorem Pump.Step.sent {cancelled : Bool} {s t : Controller} {p q : Pump} {c e : Channel}
    {d : Option Delivery} (h : p.Step cancelled s c d t q e) : e.sent = c.sent ++ d.toList := by
  cases h with
  | deliver => rfl
  | receive _ _ hc =>
      rw [(Channel.take?_eq_some hc).1]
      exact (List.append_nil _).symm
  | giveUp | take | finish | look | lose | wait | mark | retire | close | dropReceiver =>
      exact (List.append_nil _).symm

theorem Call.Opening.sent {number : Nat} {s t : Controller} {c d : Call}
    (h : c.Opening number s t d) : d.channel.sent = c.channel.sent := by
  cases h with
  | receive d e hc => rw [(Channel.take?_eq_some hc).1]
  | reject | enter | issue | answer | withdraw | settle | establish | overtaken | abandon
  | dropReceiver => rfl

theorem Call.stage_of_delivers? {c : Call} {m : CallMove} {d : Delivery} {p : Pump}
    (h : c.delivers? m = some d) (hp : c.pump? = some p) : c.stage = .active p.generation := by
  have hd : p.delivers? c.channel = some d := by
    cases m <;> simp only [delivers?, hp, reduceCtorEq] at h
    exact h
  rw [stage, Call.pump?_eq_some.1 hp]
  apply Pump.stage_of_not_isDone
  rw [Pump.delivers?] at hd
  split at hd
  · next hq => rw [Pump.isDone, hq]
  · simp at hd

namespace System

theorem sent_of_getElem? {s : System} {n : Nat} {c : Call} (h : s.calls[n]? = some c) :
    s.sent n = c.channel.sent := by
  rw [sent, h]
  rfl

theorem sent_of_calls {s t : System} (h : t.calls = s.calls) (n : Nat) : t.sent n = s.sent n := by
  rw [sent, sent, h]

theorem sent_openCall {s t : System} {capacity : Option Nat} {replicating : Bool}
    (ht : t.calls = s.calls ++ [Call.new capacity replicating]) (n : Nat) :
    t.sent n = s.sent n := by
  rw [sent, sent, ht]
  exact elim_openCall (f := fun c => c.channel.sent) rfl s.calls n

theorem sent_fireCall {s t : System} {n : Nat} {m : CallMove}
    (h : s.fire (.call n m) = some t) :
    t.sent n = s.sent n ++ ((s.logged? (.call n m)).map Entry.delivery).toList := by
  obtain ⟨c, d, hc, hf, ht⟩ := fireCall_cases h
  have hn : n < s.calls.length := (List.getElem?_eq_some_iff.1 hc).1
  have hd : t.calls[n]? = some d := by
    rw [ht]
    exact List.getElem?_set_self hn
  rw [sent_of_getElem? hc, sent_of_getElem? hd, logged?, hc]
  cases hp : c.pump? with
  | none => simp [hp, (CallMove.fire_outside hf hp).1.sent]
  | some p =>
      obtain ⟨q, -, -, hq⟩ := CallMove.fire_pump hf (Call.pump?_eq_some.1 hp)
      rw [hq.sent]
      cases hm : c.delivers? m <;> simp [hp, hm]

theorem number_of_logged? {s : System} {n : Nat} {m : CallMove} {e : Entry}
    (h : s.logged? (.call n m) = some e) : e.number = n := by
  simp only [logged?, Option.bind_eq_bind, Option.bind_eq_some_iff, Option.some.injEq] at h
  obtain ⟨c, -, p, -, d, -, rfl⟩ := h
  rfl

theorem sent_fire {s t : System} {m : Move} (h : s.fire m = some t) (n : Nat) :
    t.sent n = s.sent n ++ sentIn n (s.logged? m).toList := by
  cases m with
  | call k m =>
      by_cases hk : k = n
      · subst hk
        rw [sent_fireCall h]
        cases he : s.logged? (.call k m) with
        | none => rfl
        | some e => simp [sentIn, number_of_logged? he]
      · obtain ⟨c, d, hc, hf, ht⟩ := fireCall_cases h
        have hs : t.sent n = s.sent n := by
          rw [sent, sent, ht, List.getElem?_set_ne hk]
        rw [hs]
        cases he : s.logged? (.call k m) with
        | none => simp [sentIn]
        | some e => simp [sentIn, number_of_logged? he, hk]
  | openCall capacity replicating =>
      have hc : t.calls = s.calls ++ [Call.new capacity replicating] := by
        rw [openCall_cases h]
      rw [sent_openCall hc]
      exact (List.append_nil _).symm
  | openStop =>
      have hc : t.calls = s.calls := by rw [openStop_cases h]
      rw [sent_of_calls hc]
      exact (List.append_nil _).symm
  | stop k m =>
      obtain ⟨p, cancelled, q, -, -, ht⟩ := fireStop_cases h
      have hc : t.calls = s.calls := by rw [ht]
      rw [sent_of_calls hc]
      exact (List.append_nil _).symm
  | release =>
      have hc : t.calls = s.calls := by rw [(release_cases h).2]
      rw [sent_of_calls hc]
      exact (List.append_nil _).symm

theorem sent_run {s t : System} {moves : List Move} (h : s.run moves = some t) (n : Nat) :
    t.sent n = s.sent n ++ sentIn n (s.log moves) := by
  induction moves generalizing s with
  | nil =>
      obtain rfl := Option.some.inj h
      simp [log, sentIn]
  | cons m moves ih =>
      obtain ⟨u, hu, h⟩ := run_cons.1 h
      rw [log, hu, ih h, sent_fire hu, sentIn, sentIn, sentIn, List.append_assoc]
      simp

theorem Coherent.entry {s : System} (h : s.Coherent) {m : Move} {e : Entry}
    (he : s.logged? m = some e) :
    s.stage e.number = .active e.generation ∧ e.generation = s.controller.generation ∧
      e.current = s.controller.generation := by
  cases m with
  | call n m =>
      simp only [logged?, Option.bind_eq_bind, Option.bind_eq_some_iff, Option.some.injEq] at he
      obtain ⟨c, hc, p, hp, d, hd, rfl⟩ := he
      have hs : s.stage n = .active p.generation := by
        rw [stage_of_getElem? hc, Call.stage_of_delivers? hd hp]
      exact ⟨hs, (h.driven n p.generation hs).1, rfl⟩
  | openCall | openStop | stop | release => simp [logged?] at he

end System

end LiveTree.Watch
