import LiveTree.Proofs.Positions
import LiveTree.Proofs.Watch.Carrying
import LiveTree.Proofs.Watch.Turns

namespace LiveTree.Watch

def Call.Serves (a : Answer) (cancelled : Bool) (c : Call) : Prop :=
  match c.point with
  | .connected _ b => b = a ∧ c.channel.sent = [] ∧ c.channel.senderGone = false
  | .pumping p => p.Carries c.replicating a cancelled c.channel
  | .refused _ | .abandoned => c.channel.sent = []
  | .entering | .awaiting _ _ | .withdrawing _ _ => False

namespace Call.Serves

variable {a : Answer} {cancelled : Bool} {c d : Call}

theorem mono (h : c.Serves a cancelled) : c.Serves a true := by
  obtain ⟨replicating, channel, point⟩ := c
  cases point with
  | pumping p => exact Pump.Carries.mono h
  | entering | awaiting | withdrawing | connected | refused | abandoned => exact h

theorem carries {p : Pump} (h : c.Serves a cancelled) (hp : c.pump? = some p) :
    p.Carries c.replicating a cancelled c.channel := by
  obtain ⟨replicating, channel, point⟩ := c
  cases point with
  | pumping q =>
      obtain rfl := Option.some.inj hp
      exact h
  | entering | awaiting | withdrawing | connected | refused | abandoned => simp [pump?] at hp

theorem sent_of_pump? (h : c.Serves a cancelled) (hp : c.pump? = none) : c.channel.sent = [] := by
  obtain ⟨replicating, channel, point⟩ := c
  cases point with
  | entering | awaiting | withdrawing => exact h.elim
  | connected => exact h.2.1
  | pumping => simp [pump?] at hp
  | refused | abandoned => exact h

theorem of_point (h : c.Serves a cancelled) (hc : c.pump? = none) (hd : d.point = c.point)
    (hs : d.channel.sent = c.channel.sent) (hg : d.channel.senderGone = c.channel.senderGone) :
    d.Serves a cancelled := by
  rw [Serves, hd, hs, hg]
  rw [Serves] at h
  cases hp : c.point with
  | pumping p => simp [pump?, hp] at hc
  | entering | awaiting | withdrawing | connected | refused | abandoned => rwa [hp] at h

theorem opening {number : Nat} {s t : Controller} (h : c.Serves a cancelled)
    (hc : c.pump? = none) (ho : c.Opening number s t d) : d.Serves a cancelled := by
  cases ho with
  | reject _ hp | enter _ hp | issue _ hp | answer _ _ hp | withdraw _ _ _ hp | settle _ _ hp
  | abandon _ _ hp =>
      rw [Serves, hp] at h
      exact h.elim
  | establish g b _ hp =>
      rw [Serves, hp] at h
      obtain ⟨rfl, hs, hg⟩ := h
      exact Pump.carries_start g hs hg
  | overtaken => exact h.sent_of_pump? hc
  | receive first e he =>
      obtain ⟨rfl, -⟩ := Channel.take?_eq_some he
      exact h.of_point hc rfl rfl rfl
  | dropReceiver => exact h.of_point hc rfl rfl rfl

theorem fire {number : Nat} {s t : Controller} {m : CallMove} (h : c.Serves a cancelled)
    (hf : m.fire number cancelled s c = some (t, d)) : d.Serves a cancelled := by
  cases hc : c.pump? with
  | none => exact h.opening hc (CallMove.fire_outside hf hc).1
  | some p =>
      obtain ⟨q, hq, hr, hs⟩ := CallMove.fire_pump hf (Call.pump?_eq_some.1 hc)
      have hcarries := (h.carries hc).step hs
      rw [Serves, hq, hr]
      exact hcarries

end Call.Serves

namespace System

variable {s t : System} {m : Move} {n : Nat}

theorem call_fire {c : Call} (h : s.fire m = some t) (hc : s.calls[n]? = some c) :
    t.calls[n]? = some c ∨
      ∃ (k : CallMove) (d : Call), k.fire n (s.isCancelled n) s.controller c = some (t.controller, d) ∧
        t.calls[n]? = some d := by
  have hn : n < s.calls.length := (List.getElem?_eq_some_iff.1 hc).1
  cases m with
  | openCall capacity replicating =>
      rw [openCall_cases h, List.getElem?_append_left hn]
      exact .inl hc
  | openStop =>
      rw [openStop_cases h]
      exact .inl hc
  | stop k m =>
      obtain ⟨p, cancelled, q, -, -, ht⟩ := fireStop_cases h
      rw [ht]
      exact .inl hc
  | release =>
      rw [(release_cases h).2]
      exact .inl hc
  | call k m =>
      obtain ⟨b, d, hb, hf, ht⟩ := fireCall_cases h
      rw [ht]
      by_cases hk : k = n
      · subst hk
        obtain rfl := Option.some.inj (hc.symm.trans hb)
        exact .inr ⟨m, d, hf, List.getElem?_set_self hn⟩
      · rw [List.getElem?_set_ne hk]
        exact .inl hc

theorem isCancelled_fire (h : s.fire m = some t) (hn : s.isCancelled n = true) :
    t.isCancelled n = true := by
  rw [isCancelled, List.contains_iff_mem] at hn ⊢
  cases m with
  | openCall => rwa [openCall_cases h]
  | openStop => rwa [openStop_cases h]
  | stop k m =>
      obtain ⟨p, cancelled, q, -, -, ht⟩ := fireStop_cases h
      rw [ht]
      exact List.mem_append_right _ hn
  | release =>
      rw [(release_cases h).2]
      exact List.mem_append_right _ hn
  | call k m =>
      obtain ⟨b, d, -, -, ht⟩ := fireCall_cases h
      rwa [ht]

theorem isCancelled_cases (h : s.fire m = some t) (n : Nat) :
    t.isCancelled n = true ∨ t.isCancelled n = s.isCancelled n := by
  cases hn : s.isCancelled n with
  | true => exact .inl (isCancelled_fire h hn)
  | false => cases t.isCancelled n <;> simp

theorem serves_fire {a : Answer} {c : Call} (h : s.fire m = some t) (hc : s.calls[n]? = some c)
    (hs : c.Serves a (s.isCancelled n)) :
    ∃ d, t.calls[n]? = some d ∧ d.Serves a (t.isCancelled n) := by
  have hcancel {d : Call} (hd : d.Serves a (s.isCancelled n)) : d.Serves a (t.isCancelled n) := by
    obtain ht | ht := isCancelled_cases h n
    · rw [ht]
      exact hd.mono
    · rwa [ht]
  obtain hd | ⟨k, d, hf, hd⟩ := call_fire h hc
  · exact ⟨c, hd, hcancel hs⟩
  · exact ⟨d, hd, hcancel (hs.fire hf)⟩

theorem serves_run {a : Answer} {moves : List Move} {c : Call} (h : s.run moves = some t)
    (hc : s.calls[n]? = some c) (hs : c.Serves a (s.isCancelled n)) :
    ∃ d, t.calls[n]? = some d ∧ d.Serves a (t.isCancelled n) := by
  induction moves generalizing s c with
  | nil =>
      obtain rfl := Option.some.inj h
      exact ⟨c, hc, hs⟩
  | cons m moves ih =>
      obtain ⟨u, hu, h⟩ := run_cons.1 h
      obtain ⟨d, hd, hs⟩ := serves_fire hu hc hs
      exact ih h hd hs

theorem call_of_fire {d : Call} (h : s.fire m = some t) (hd : t.calls[n]? = some d) :
    s.calls[n]? = some d ∨ (∃ capacity replicating, d = Call.new capacity replicating) ∨
      ∃ (k : CallMove) (c : Call), s.calls[n]? = some c ∧
        k.fire n (s.isCancelled n) s.controller c = some (t.controller, d) := by
  cases hc : s.calls[n]? with
  | some c =>
      obtain ht | ⟨k, e, hf, he⟩ := call_fire h hc
      · exact .inl (ht.symm.trans hd)
      · obtain rfl := Option.some.inj (hd.symm.trans he)
        exact .inr (.inr ⟨k, c, rfl, hf⟩)
  | none =>
      have hn : s.calls.length ≤ n := List.getElem?_eq_none_iff.1 hc
      refine .inr (.inl ?_)
      cases m with
      | openCall capacity replicating =>
          rw [openCall_cases h] at hd
          obtain hd | ⟨-, rfl⟩ := getElem?_concat_cases hd
          · exact nomatch hc.symm.trans hd
          · exact ⟨capacity, replicating, rfl⟩
      | openStop => simp [openStop_cases h, hc] at hd
      | stop k m =>
          obtain ⟨p, cancelled, q, -, -, ht⟩ := fireStop_cases h
          rw [ht, hc] at hd
          simp at hd
      | release => simp [(release_cases h).2, hc] at hd
      | call k m =>
          obtain ⟨b, e, -, -, ht⟩ := fireCall_cases h
          rw [ht, List.getElem?_eq_none (by simpa using hn)] at hd
          simp at hd

theorem fire_isPending {number : Nat} {cancelled : Bool} {k : CallMove} {u v : Controller}
    {c d : Call} (h : k.fire number cancelled u c = some (v, d)) (hd : d.isPending = true) :
    c.isPending = true ∧ d.channel.sent = c.channel.sent ∧
      d.channel.senderGone = c.channel.senderGone := by
  cases hc : c.pump? with
  | some p =>
      obtain ⟨q, hq, -⟩ := CallMove.fire_pump h (Call.pump?_eq_some.1 hc)
      simp [Call.isPending, hq] at hd
  | none =>
      cases (CallMove.fire_outside h hc).1 with
      | enter _ hp | issue _ hp | answer _ _ hp | withdraw _ _ _ hp =>
          exact ⟨by simp [Call.isPending, hp], rfl, rfl⟩
      | reject | settle | establish | overtaken | abandon =>
          simp [Call.isPending, Call.refuse] at hd
      | receive first e he =>
          obtain ⟨rfl, -⟩ := Channel.take?_eq_some he
          exact ⟨hd, rfl, rfl⟩
      | dropReceiver => exact ⟨hd, rfl, rfl⟩

/-- What holds of a new call, and is kept by every step of a call, holds of all calls. -/
theorem Reachable.call_induction {P : Call → Prop} (h : s.Reachable)
    (hnew : ∀ capacity replicating, P (Call.new capacity replicating))
    (hstep : ∀ number cancelled u v (k : CallMove) c d,
      k.fire number cancelled u c = some (v, d) → P c → P d)
    {c : Call} (hc : s.calls[n]? = some c) : P c := by
  let Q (s : System) : Prop := ∀ (n : Nat) (c : Call), s.calls[n]? = some c → P c
  suffices hs : Q s from hs n c hc
  refine h.induction (by simp [Q, new]) ?_
  intro s t m hs ht n d hd
  obtain hd | ⟨capacity, replicating, rfl⟩ | ⟨k, c, hc, hf⟩ := call_of_fire ht hd
  · exact hs n d hd
  · exact hnew capacity replicating
  · exact hstep n _ _ _ k c d hf (hs n c hc)

theorem Reachable.untouched (h : s.Reachable) {c : Call} (hc : s.calls[n]? = some c)
    (hp : c.isPending = true) : c.channel.sent = [] ∧ c.channel.senderGone = false := by
  let P (c : Call) : Prop :=
    c.isPending = true → c.channel.sent = [] ∧ c.channel.senderGone = false
  suffices hs : P c from hs hp
  refine h.call_induction (fun _ _ _ => ⟨rfl, rfl⟩) ?_ hc
  intro number cancelled u v k c d hf hc hp
  obtain ⟨hpending, hsent, hgone⟩ := fire_isPending hf hp
  obtain ⟨hs, hg⟩ := hc hpending
  exact ⟨hsent.trans hs, hgone.trans hg⟩

/-- A step leaves a pump that carries what it carried before, or what the answer tells that it was
just started for. -/
theorem carries_fire {number : Nat} {cancelled : Bool} {u v : Controller} {k : CallMove} {c d : Call}
    {q : Pump} (hf : k.fire number cancelled u c = some (v, d)) (hq : d.pump? = some q)
    (hpending : c.isPending = true → c.channel.sent = [] ∧ c.channel.senderGone = false)
    (hpumping : ∀ p, c.pump? = some p → ∃ a, p.Carries c.replicating a cancelled c.channel) :
    ∃ a, q.Carries d.replicating a cancelled d.channel := by
  cases hp : c.pump? with
  | some p =>
      obtain ⟨a, hcarries⟩ := hpumping p hp
      obtain ⟨r, hr, hreplicating, hstep⟩ := CallMove.fire_pump hf (Call.pump?_eq_some.1 hp)
      obtain rfl := Option.some.inj (hq.symm.trans (Call.pump?_eq_some.2 hr))
      rw [hreplicating]
      exact ⟨a, hcarries.step hstep⟩
  | none =>
      cases (CallMove.fire_outside hf hp).1 with
      | establish g a _ hpoint =>
          obtain rfl := Option.some.inj hq
          obtain ⟨hsent, hgone⟩ := hpending (by rw [Call.isPending, hpoint])
          exact ⟨a, Pump.carries_start g hsent hgone⟩
      | reject | enter | issue | answer | withdraw | settle | overtaken | abandon => exact nomatch hq
      | receive | dropReceiver => exact nomatch hp.symm.trans hq

theorem Reachable.carries (h : s.Reachable) {c : Call} {p : Pump} (hc : s.calls[n]? = some c)
    (hp : c.pump? = some p) : ∃ a, p.Carries c.replicating a (s.isCancelled n) c.channel := by
  let P (s : System) : Prop := s.Reachable ∧ ∀ (n : Nat) (c : Call) (p : Pump),
    s.calls[n]? = some c → c.pump? = some p →
      ∃ a, p.Carries c.replicating a (s.isCancelled n) c.channel
  suffices hs : P s from hs.2 n c p hc hp
  refine h.induction ⟨reachable_new, by simp [new]⟩ ?_
  rintro s t m ⟨hreachable, hs⟩ ht
  refine ⟨hreachable.fire ht, fun n d q hd hq => ?_⟩
  obtain ⟨a, hcarries⟩ : ∃ a, q.Carries d.replicating a (s.isCancelled n) d.channel := by
    obtain hd | ⟨capacity, replicating, rfl⟩ | ⟨k, c, hc, hf⟩ := call_of_fire ht hd
    · exact hs n d q hd hq
    · exact nomatch hq
    · exact carries_fire hf hq (hreachable.untouched hc) (hs n c · hc)
  obtain hn | hn := isCancelled_cases ht n
  · rw [hn]
    exact ⟨a, hcarries.mono⟩
  · rw [hn]
    exact ⟨a, hcarries⟩

theorem Reachable.serves_answer (h : s.Reachable) {a : Answer}
    (ht : s.fire (.call n (.answer (.ok a))) = some t) :
    ∃ d, t.calls[n]? = some d ∧ d.Serves a (t.isCancelled n) := by
  obtain ⟨c, d, hc, hf, hs⟩ := fireCall_cases ht
  have hd : t.calls[n]? = some d := by
    rw [hs]
    exact List.getElem?_set_self (List.getElem?_eq_some_iff.1 hc).1
  refine ⟨d, hd, ?_⟩
  obtain ⟨g, hpoint, ⟨b, hb, rfl⟩ | ⟨f, hb, -⟩⟩ :=
    CallMove.answer?_eq_some (CallMove.eq_of_map hf).2
  · obtain rfl := Except.ok.inj hb
    have huntouched := h.untouched hc (by rw [Call.isPending, hpoint])
    exact ⟨rfl, huntouched⟩
  · exact nomatch hb

end System

end LiveTree.Watch
