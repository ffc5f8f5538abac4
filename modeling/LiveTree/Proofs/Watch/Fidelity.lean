import LiveTree.Proofs.Watch.Completion

namespace LiveTree.Watch.System

variable {moves : List Move} {s : System} {n : Nat} {a : Answer} {c : Call}

theorem serves_of_answer (h : new.run moves = some s) (ha : .call n (.answer (.ok a)) ∈ moves)
    (hc : s.calls[n]? = some c) : c.Serves a (s.isCancelled n) := by
  obtain ⟨before, after, rfl⟩ := List.append_of_mem ha
  rw [run_append] at h
  obtain ⟨u, hu, h⟩ := Option.bind_eq_some_iff.1 h
  obtain ⟨v, hv, h⟩ := run_cons.1 h
  obtain ⟨b, hb, hserves⟩ := Reachable.serves_answer ⟨before, hu⟩ hv
  obtain ⟨d, hd, hserves⟩ := serves_run h hb hserves
  obtain rfl := Option.some.inj (hc.symm.trans hd)
  exact hserves

/-- The deliveries of a watch are the first of those that its answer asks for. As long as the watch
is not cancelled and its receiver is there, none is missing when the channel is closed, and nothing
but steps of the pump and the receiver is needed to make them all. -/
theorem delivery_fidelity (h : new.run moves = some s) (ha : .call n (.answer (.ok a)) ∈ moves)
    (hc : s.calls[n]? = some c) :
    c.channel.sent <+: expected c.replicating a.items ∧
      (c.pump?.isSome = true → s.isCancelled n = false → c.channel.receiverGone = false →
        (c.channel.senderGone = true → c.channel.sent = expected c.replicating a.items) ∧
        (c.channel.capacity ≠ some 0 →
          ∃ (steps : List CallMove) (t : System) (d : Call), (∀ m ∈ steps, m.isCarrying = true) ∧
            s.run (steps.map (.call n)) = some t ∧ t.calls[n]? = some d ∧
              d.channel.sent = expected c.replicating a.items ∧
                (a.Ends → d.channel.senderGone = true))) := by
  have hserves := serves_of_answer h ha hc
  constructor
  · cases hp : c.pump? with
    | none =>
        rw [hserves.sent_of_pump? hp]
        exact List.nil_prefix
    | some p =>
        obtain ⟨lost, hw, -⟩ := (hserves.carries hp).whole
        rw [hw, List.append_assoc]
        exact List.prefix_append _ _
  · intro hpump hcancel hreceiver
    obtain ⟨p, hp⟩ := Option.isSome_iff_exists.1 hpump
    rw [hcancel] at hserves
    have hcarries := hserves.carries hp
    constructor
    · intro hgone
      have hdone := Pump.isDone_of_isEnded (hcarries.closed.symm.trans hgone)
      rw [hcarries.whole_of_undisturbed hreceiver, Pump.toCome_of_isDone hdone, List.append_nil]
    · intro hcapacity
      have hflows : c.Flows a p := ⟨Call.pump?_eq_some.1 hp, hserves, hreceiver, hcapacity⟩
      obtain ⟨steps, t, d, q, hsteps, ht, hd, hflows, hreplicating, hrests⟩ :=
        exists_run_rests hc hcancel hflows
      obtain ⟨hsent, hgone⟩ := hflows.carries.rests hflows.receiver hrests
      exact ⟨steps, t, d, hsteps, ht, hd, hreplicating ▸ hsent, hgone⟩

/-- An event has filled the channel, and another one waits behind it, and a failure. A keep-alive is
not delivered. -/
theorem delivery_fidelity_full :
    let text := "event: put\ndata: \x7b\"path\":\"/a\",\"data\":true\x7d\n\nevent: keep-alive\n\n" ++
      "event: patch\ndata: \x7b\"path\":\"/b\",\"data\":\x7b\"c\":1\x7d\x7d\n\n" ++
      "event: cancel\ndata: \"done\"\n\n"
    let first : Event := ⟨.put, "/a", .bool true, some (.object [("a", .bool true)])⟩
    let second : Event := ⟨.patch, "/b", .object [("c", .number (.whole 1))],
      some (.object [("a", .bool true), ("b", .object [("c", .number (.whole 1))])])⟩
    ∃ (a : Answer) (s : System) (c : Call), a.pieces = [Text.Utf8.encode text.toList] ∧
      s.Reachable ∧ s.calls[0]? = some c ∧ c.replicating = true ∧ c.channel.hasRoom = false ∧
      c.channel.sent = [.ok first] ∧ ∃ (steps : List CallMove) (t : System) (d : Call),
        s.run (steps.map (.call 0)) = some t ∧ t.calls[0]? = some d ∧ d.channel.senderGone = true ∧
          d.channel.sent =
            [.ok first, .ok second, .error (.streamCancelled (some "done"))] := by
  intro text first second
  let a : Answer := ⟨200, [Text.Utf8.encode text.toList], .closed, .utf8⟩
  let moves : List Move := [.openCall (some 1) true, .call 0 .enter, .call 0 .issue,
    .call 0 (.answer (.ok a)), .call 0 .establish, .call 0 .poll, .call 0 .look, .call 0 .offer]
  let serves (c : Call) : Bool :=
    c.replicating && c.pump?.isSome && c.channel.capacity = some 1 && !c.channel.receiverGone &&
      !c.channel.hasRoom && c.channel.sent = [.ok first]
  have hrun : ((new.run moves).any fun s => !s.isCancelled 0 && s.calls[0]?.any serves) = true := by
    decide +kernel
  obtain ⟨s, h, hs⟩ := (Option.any_eq_true _ _).1 hrun
  simp only [Bool.and_eq_true, Option.any_eq_true, serves, Bool.not_eq_true', decide_eq_true_eq] at hs
  obtain ⟨hcancel, c, hc, ⟨⟨⟨⟨hreplicating, hpump⟩, hcapacity⟩, hreceiver⟩, hroom⟩, hfirst⟩ := hs
  have hexpected : expected true a.items =
      [.ok first, .ok second, .error (.streamCancelled (some "done"))] := by decide +kernel
  obtain ⟨-, hwatch⟩ := delivery_fidelity h (a := a) (by simp [moves]) hc
  obtain ⟨-, hmore⟩ := hwatch hpump hcancel hreceiver
  obtain ⟨steps, t, d, -, ht, hd, hsent, hgone⟩ := hmore (by simp [hcapacity])
  rw [hreplicating, hexpected] at hsent
  exact ⟨a, s, c, rfl, ⟨moves, h⟩, hc, hreplicating, hroom, hfirst, steps, t, d, ht, hd,
    hgone (.inl (by decide)), hsent⟩

end LiveTree.Watch.System
