import LiveTree.Watch.System

namespace LiveTree.Watch

theorem Channel.take?_eq_some {c e : Channel} {d : Delivery} (h : c.take? = some (d, e)) :
    e = { c with taken := c.taken + 1 } ∧ c.receiverGone = false := by
  rw [take?] at h
  split at h
  · simp at h
  · split at h
    · simp at h
    · next hr =>
        obtain ⟨-, rfl⟩ := Prod.mk.inj (Option.some.inj h)
        exact ⟨rfl, by simpa using hr⟩

namespace Pump

/-- The steps of a pump and of the receiver at the other end of its channel, with what is put on
the channel in them and what they do to the controller. -/
inductive Step (cancelled : Bool) (s : Controller) :
    Pump → Channel → Option Delivery → Controller → Pump → Channel → Prop
  | giveUp (p : Pump) (c : Channel) (hp : p.isDone = false) (hc : cancelled = true) :
      Step cancelled s p c none s { p with point := .retiring } c
  | take (p : Pump) (c : Channel) (i : Stream.Item) (source : Stream.Source)
      (hp : p.point = .polling) (hi : p.source.poll = (.item i, source)) :
      Step cancelled s p c none s ({ p with source }.react i) c
  | finish (p : Pump) (c : Channel) (source : Stream.Source) (hp : p.point = .polling)
      (hi : p.source.poll = (.ended, source)) :
      Step cancelled s p c none s { p with source, point := .retiring } c
  | look (p : Pump) (c : Channel) (d : Delivery) (hp : p.point = .sending d false) :
      Step cancelled s p c none s { p with point := .sending d true } c
  | lose (p : Pump) (c : Channel) (d : Delivery) (hp : p.point = .sending d true)
      (hc : c.receiverGone = true) : Step cancelled s p c none s { p with point := .retiring } c
  | deliver (p : Pump) (c : Channel) (d : Delivery) (hp : p.point = .sending d true)
      (hc : c.receiverGone = false) (hr : c.hasRoom = true) :
      Step cancelled s p c (some d) s { p with point := afterSending d } (c.put d)
  | wait (p : Pump) (c : Channel) (d : Delivery) (hp : p.point = .sending d true)
      (hc : c.receiverGone = false) (hr : c.hasRoom = false) :
      Step cancelled s p c none s { p with point := .sending d false } c
  | mark (p : Pump) (c : Channel) (f : Failure) (hp : p.point = .marking f) :
      Step cancelled s p c none (s.markFailed p.generation)
        { p with point := .sending (.error f) false } c
  | retire (p : Pump) (c : Channel) (hp : p.point = .retiring) :
      Step cancelled s p c none (s.settle p.generation) { p with point := .closing } c
  | close (p : Pump) (c : Channel) (hp : p.point = .closing) :
      Step cancelled s p c none s { p with point := .ended } c.dropSender
  | receive (p : Pump) (c e : Channel) (d : Delivery) (hc : c.take? = some (d, e)) :
      Step cancelled s p c none s p e
  | dropReceiver (p : Pump) (c : Channel) : Step cancelled s p c none s p c.dropReceiver

end Pump

theorem Call.pump?_eq_some {c : Call} {p : Pump} : c.pump? = some p ↔ c.point = .pumping p := by
  obtain ⟨replicating, channel, point⟩ := c
  cases point <;> simp [pump?]

/-- The steps of a call without a pump, with what they do to the controller. -/
inductive Call.Opening (number : Nat) (s : Controller) (c : Call) : Controller → Call → Prop
  | reject (f : Failure) (hc : c.point = .entering) : Opening number s c s (c.refuse f)
  | enter (t : Controller) (hc : c.point = .entering) (ht : s.begin? number = some t) :
      Opening number s c t { c with point := .awaiting t.generation false }
  | issue (g : Nat) (hc : c.point = .awaiting g false) :
      Opening number s c s { c with point := .awaiting g true }
  | answer (g : Nat) (a : Answer) (hc : c.point = .awaiting g true) :
      Opening number s c s { c with point := .connected g a }
  | withdraw (g : Nat) (issued : Bool) (f : Failure) (hc : c.point = .awaiting g issued) :
      Opening number s c s { c with point := .withdrawing g f }
  | settle (g : Nat) (f : Failure) (hc : c.point = .withdrawing g f) :
      Opening number s c (s.settle g) (c.refuse f)
  | establish (g : Nat) (a : Answer) (t : Controller) (hc : c.point = .connected g a)
      (ht : s.establish? g number = some t) :
      Opening number s c t { c with point := .pumping (Pump.start g a c.replicating) }
  | overtaken (g : Nat) (a : Answer) (hc : c.point = .connected g a)
      (ht : s.establish? g number = none) : Opening number s c s (c.refuse .stopped)
  | abandon (g : Nat) (issued : Bool) (hc : c.point = .awaiting g issued) :
      Opening number s c s { c with channel := c.channel.dropSender, point := .abandoned }
  | receive (d : Delivery) (e : Channel) (hc : c.channel.take? = some (d, e)) :
      Opening number s c s { c with channel := e }
  | dropReceiver : Opening number s c s { c with channel := c.channel.dropReceiver }

namespace Pump

def delivers? (p : Pump) (c : Channel) : Option Delivery :=
  match p.point with
  | .sending d true => if c.receiverGone then none else if c.hasRoom then some d else none
  | _ => none

theorem step_of_poll? {cancelled : Bool} {p q : Pump} (h : p.poll? cancelled = some q)
    (s : Controller) (c : Channel) : p.Step cancelled s c none s q c := by
  rw [poll?] at h
  split at h
  · next hp =>
      split at h
      · next hc =>
          obtain rfl := Option.some.inj h
          exact .giveUp p c (by rw [isDone, hp]) hc
      · split at h
        · next i source hi =>
            obtain rfl := Option.some.inj h
            exact .take p c i source hp hi
        · next source hi =>
            obtain rfl := Option.some.inj h
            exact .finish p c source hp hi
        · simp at h
  · simp at h

theorem step_of_look? {cancelled : Bool} {p q : Pump} (h : p.look? cancelled = some q)
    (s : Controller) (c : Channel) : p.Step cancelled s c none s q c := by
  rw [look?] at h
  split at h
  · next d hp =>
      obtain rfl := Option.some.inj h
      cases cancelled with
      | true => exact .giveUp p c (by rw [isDone, hp]) rfl
      | false => exact .look p c d hp
  · simp at h

theorem step_of_offer? {p q : Pump} {c e : Channel} (h : p.offer? c = some (q, e))
    (cancelled : Bool) (s : Controller) : p.Step cancelled s c (p.delivers? c) s q e := by
  rw [offer?] at h
  split at h
  · next d hp =>
      simp only [delivers?, hp]
      split at h
      · next hc =>
          obtain ⟨rfl, rfl⟩ := Prod.mk.inj (Option.some.inj h)
          rw [if_pos hc]
          exact .lose p c d hp hc
      · next hc =>
          rw [if_neg hc]
          split at h
          · next hr =>
              obtain ⟨rfl, rfl⟩ := Prod.mk.inj (Option.some.inj h)
              rw [if_pos hr]
              exact .deliver p c d hp (by simpa using hc) hr
          · next hr =>
              obtain ⟨rfl, rfl⟩ := Prod.mk.inj (Option.some.inj h)
              rw [if_neg hr]
              exact .wait p c d hp (by simpa using hc) (by simpa using hr)
  · simp at h

end Pump

def Call.delivers? (c : Call) : CallMove → Option Delivery
  | .offer => c.pump? >>= fun p => p.delivers? c.channel
  | _ => none

namespace CallMove

section Sections

variable {number : Nat} {cancelled : Bool} {s t : Controller} {c d : Call} {f : Failure}

theorem eq_of_map {o : Option Call} (h : o.map (s, ·) = some (t, d)) : t = s ∧ o = some d := by
  obtain ⟨e, he, h⟩ := Option.map_eq_some_iff.1 h
  obtain ⟨rfl, rfl⟩ := Prod.mk.inj h
  exact ⟨rfl, he⟩

theorem reject?_eq_some (h : reject? f c = some d) : c.point = .entering ∧ d = c.refuse f := by
  rw [reject?] at h
  split at h
  · next hc => exact ⟨hc, (Option.some.inj h).symm⟩
  · exact nomatch h

theorem enter?_eq_some (h : enter? number s c = some (t, d)) : c.point = .entering ∧
    (s.begin? number = some t ∧ d = { c with point := .awaiting t.generation false } ∨
      s.begin? number = none ∧ t = s ∧ d = c.refuse .alreadyWatching) := by
  rw [enter?] at h
  split at h
  · next hc =>
      refine ⟨hc, ?_⟩
      split at h
      · next hs =>
          obtain ⟨rfl, rfl⟩ := Prod.mk.inj (Option.some.inj h)
          exact .inl ⟨hs, rfl⟩
      · next hs =>
          obtain ⟨rfl, rfl⟩ := Prod.mk.inj (Option.some.inj h)
          exact .inr ⟨hs, rfl, rfl⟩
  · exact nomatch h

theorem issue?_eq_some (h : issue? cancelled c = some d) :
    ∃ g, c.point = .awaiting g false ∧ d = { c with point := .awaiting g true } := by
  rw [issue?] at h
  split at h
  · next g hc =>
      split at h
      · exact nomatch h
      · exact ⟨g, hc, (Option.some.inj h).symm⟩
  · exact nomatch h

theorem answer?_eq_some {result : Except Failure Answer} (h : answer? result c = some d) :
    ∃ g, c.point = .awaiting g true ∧
      ((∃ a, result = .ok a ∧ d = { c with point := .connected g a }) ∨
        ∃ f, result = .error f ∧ d = { c with point := .withdrawing g f }) := by
  unfold answer? at h
  split at h
  · next g a hc => exact ⟨g, hc, .inl ⟨a, rfl, (Option.some.inj h).symm⟩⟩
  · next g f hc => exact ⟨g, hc, .inr ⟨f, rfl, (Option.some.inj h).symm⟩⟩
  · exact nomatch h

theorem withdraw?_eq_some (h : withdraw? cancelled c = some d) :
    ∃ g issued, c.point = .awaiting g issued ∧ cancelled = true ∧
      d = { c with point := .withdrawing g .stopped } := by
  rw [withdraw?] at h
  split at h
  · next g issued hc =>
      split at h
      · next hcancelled => exact ⟨g, issued, hc, hcancelled, (Option.some.inj h).symm⟩
      · exact nomatch h
  · exact nomatch h

theorem settle?_eq_some (h : settle? s c = some (t, d)) :
    ∃ g f, c.point = .withdrawing g f ∧ t = s.settle g ∧ d = c.refuse f := by
  rw [settle?] at h
  split at h
  · next g f hc =>
      obtain ⟨rfl, rfl⟩ := Prod.mk.inj (Option.some.inj h)
      exact ⟨g, f, hc, rfl, rfl⟩
  · exact nomatch h

theorem establish?_eq_some (h : establish? number s c = some (t, d)) :
    ∃ g a, c.point = .connected g a ∧
      (s.establish? g number = some t ∧
          d = { c with point := .pumping (Pump.start g a c.replicating) } ∨
        s.establish? g number = none ∧ t = s ∧ d = c.refuse .stopped) := by
  rw [establish?] at h
  split at h
  · next g a hc =>
      refine ⟨g, a, hc, ?_⟩
      split at h
      · next hs =>
          obtain ⟨rfl, rfl⟩ := Prod.mk.inj (Option.some.inj h)
          exact .inl ⟨hs, rfl⟩
      · next hs =>
          obtain ⟨rfl, rfl⟩ := Prod.mk.inj (Option.some.inj h)
          exact .inr ⟨hs, rfl, rfl⟩
  · exact nomatch h

theorem abandon?_eq_some (h : abandon? c = some d) : ∃ g issued, c.point = .awaiting g issued ∧
    d = { c with channel := c.channel.dropSender, point := .abandoned } := by
  rw [abandon?] at h
  split at h
  · next g issued hc => exact ⟨g, issued, hc, (Option.some.inj h).symm⟩
  · exact nomatch h

theorem mark?_eq_some (h : mark? s c = some (t, d)) :
    ∃ p f, c.point = .pumping p ∧ p.point = .marking f ∧ t = s.markFailed p.generation ∧
      d = { c with point := .pumping { p with point := .sending (.error f) false } } := by
  rw [mark?] at h
  split at h
  · next p hc =>
      split at h
      · next f hp =>
          obtain ⟨rfl, rfl⟩ := Prod.mk.inj (Option.some.inj h)
          exact ⟨p, f, hc, hp, rfl, rfl⟩
      · exact nomatch h
  · exact nomatch h

theorem retire?_eq_some (h : retire? s c = some (t, d)) :
    ∃ p, c.point = .pumping p ∧ p.point = .retiring ∧ t = s.settle p.generation ∧
      d = { c with point := .pumping { p with point := .closing } } := by
  rw [retire?] at h
  split at h
  · next p hc =>
      split at h
      · next hp =>
          obtain ⟨rfl, rfl⟩ := Prod.mk.inj (Option.some.inj h)
          exact ⟨p, hc, hp, rfl, rfl⟩
      · exact nomatch h
  · exact nomatch h

theorem receive?_eq_some (h : receive? c = some d) :
    ∃ first e, c.channel.take? = some (first, e) ∧ d = { c with channel := e } := by
  obtain ⟨⟨first, e⟩, he, rfl⟩ := Option.map_eq_some_iff.1 h
  exact ⟨first, e, he, rfl⟩

end Sections

theorem fire_pump {number : Nat} {cancelled : Bool} {s t : Controller} {c d : Call} {m : CallMove}
    {p : Pump} (h : m.fire number cancelled s c = some (t, d)) (hp : c.point = .pumping p) :
    ∃ q, d.point = .pumping q ∧ d.replicating = c.replicating ∧
      p.Step cancelled s c.channel (c.delivers? m) t q d.channel := by
  obtain ⟨replicating, channel, point⟩ := c
  obtain rfl : point = .pumping p := hp
  cases m with
  | reject | enter | issue | answer | withdraw | settle | establish | abandon =>
      simp [fire, reject?, enter?, issue?, answer?, withdraw?, settle?, establish?, abandon?] at h
  | poll =>
      simp only [fire, onPump, Option.map_map, Option.map_eq_some_iff] at h
      obtain ⟨q, hq, h⟩ := h
      obtain ⟨rfl, rfl⟩ := Prod.mk.inj h
      exact ⟨q, rfl, rfl, Pump.step_of_poll? hq s channel⟩
  | look =>
      simp only [fire, onPump, Option.map_map, Option.map_eq_some_iff] at h
      obtain ⟨q, hq, h⟩ := h
      obtain ⟨rfl, rfl⟩ := Prod.mk.inj h
      exact ⟨q, rfl, rfl, Pump.step_of_look? hq s channel⟩
  | offer =>
      simp only [fire, offer?, Option.map_map, Option.map_eq_some_iff] at h
      obtain ⟨⟨q, e⟩, hq, h⟩ := h
      obtain ⟨rfl, rfl⟩ := Prod.mk.inj h
      exact ⟨q, rfl, rfl, Pump.step_of_offer? hq cancelled s⟩
  | mark =>
      simp only [fire, mark?] at h
      split at h
      · next f hp =>
          obtain ⟨rfl, rfl⟩ := Prod.mk.inj (Option.some.inj h)
          exact ⟨_, rfl, rfl, .mark p channel f hp⟩
      · simp at h
  | retire =>
      simp only [fire, retire?] at h
      split at h
      · next hp =>
          obtain ⟨rfl, rfl⟩ := Prod.mk.inj (Option.some.inj h)
          exact ⟨_, rfl, rfl, .retire p channel hp⟩
      · simp at h
  | close =>
      simp only [fire, close?] at h
      split at h
      · next hp =>
          obtain ⟨rfl, rfl⟩ := Prod.mk.inj (Option.some.inj h)
          exact ⟨_, rfl, rfl, .close p channel hp⟩
      · simp at h
  | receive =>
      simp only [fire, receive?, Option.map_map, Option.map_eq_some_iff] at h
      obtain ⟨⟨d', e⟩, he, h⟩ := h
      obtain ⟨rfl, rfl⟩ := Prod.mk.inj h
      exact ⟨p, rfl, rfl, .receive p channel e d' he⟩
  | dropReceiver =>
      obtain ⟨rfl, rfl⟩ := Prod.mk.inj (Option.some.inj h)
      exact ⟨p, rfl, rfl, .dropReceiver p channel⟩

theorem fire_outside {number : Nat} {cancelled : Bool} {s t : Controller} {c d : Call} {m : CallMove}
    (h : m.fire number cancelled s c = some (t, d)) (hp : c.pump? = none) :
    c.Opening number s t d ∧ c.delivers? m = none := by
  have hpumping (p : Pump) : c.point ≠ .pumping p := by
    rw [Ne, ← Call.pump?_eq_some, hp]
    exact nofun
  cases m with
  | reject f =>
      obtain ⟨rfl, hd⟩ := eq_of_map h
      obtain ⟨hc, rfl⟩ := reject?_eq_some hd
      exact ⟨.reject f hc, rfl⟩
  | enter =>
      obtain ⟨hc, ⟨hs, rfl⟩ | ⟨-, rfl, rfl⟩⟩ := enter?_eq_some h
      · exact ⟨.enter t hc hs, rfl⟩
      · exact ⟨.reject _ hc, rfl⟩
  | issue =>
      obtain ⟨rfl, hd⟩ := eq_of_map h
      obtain ⟨g, hc, rfl⟩ := issue?_eq_some hd
      exact ⟨.issue g hc, rfl⟩
  | answer result =>
      obtain ⟨rfl, hd⟩ := eq_of_map h
      obtain ⟨g, hc, ⟨a, -, rfl⟩ | ⟨f, -, rfl⟩⟩ := answer?_eq_some hd
      · exact ⟨.answer g a hc, rfl⟩
      · exact ⟨.withdraw g true f hc, rfl⟩
  | withdraw =>
      obtain ⟨rfl, hd⟩ := eq_of_map h
      obtain ⟨g, issued, hc, -, rfl⟩ := withdraw?_eq_some hd
      exact ⟨.withdraw g issued _ hc, rfl⟩
  | settle =>
      obtain ⟨g, f, hc, rfl, rfl⟩ := settle?_eq_some h
      exact ⟨.settle g f hc, rfl⟩
  | establish =>
      obtain ⟨g, a, hc, ⟨hs, rfl⟩ | ⟨hs, rfl, rfl⟩⟩ := establish?_eq_some h
      · exact ⟨.establish g a t hc hs, rfl⟩
      · exact ⟨.overtaken g a hc hs, rfl⟩
  | abandon =>
      obtain ⟨rfl, hd⟩ := eq_of_map h
      obtain ⟨g, issued, hc, rfl⟩ := abandon?_eq_some hd
      exact ⟨.abandon g issued hc, rfl⟩
  | poll | look | offer | close =>
      obtain ⟨-, hd⟩ := eq_of_map h
      cases hc : c.point with
      | pumping p => exact absurd hc (hpumping p)
      | _ => simp [onPump, offer?, close?, hc] at hd
  | mark =>
      obtain ⟨p, f, hc, -⟩ := mark?_eq_some h
      exact absurd hc (hpumping p)
  | retire =>
      obtain ⟨p, hc, -⟩ := retire?_eq_some h
      exact absurd hc (hpumping p)
  | receive =>
      obtain ⟨rfl, hd⟩ := eq_of_map h
      obtain ⟨first, e, he, rfl⟩ := receive?_eq_some hd
      exact ⟨.receive first e he, rfl⟩
  | dropReceiver =>
      obtain ⟨rfl, rfl⟩ := Prod.mk.inj (Option.some.inj h)
      exact ⟨.dropReceiver, rfl⟩

end CallMove

end LiveTree.Watch
