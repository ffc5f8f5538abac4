import LiveTree.Proofs.Watch.Expected
import LiveTree.Proofs.Watch.Pumping

namespace LiveTree.Watch

namespace Pump

variable {replicating cancelled : Bool} {a : Answer} {p q : Pump} {c e : Channel}

def toCome (p : Pump) : List Delivery :=
  match p.point with
  | .polling => deliveries p.replica p.source.toCome
  | .sending (.ok event) _ => .ok event :: deliveries p.replica p.source.toCome
  | .sending (.error f) _ | .marking f => [.error f]
  | .retiring | .closing | .ended => []

theorem toCome_of_isDone (h : p.isDone = true) : p.toCome = [] := by
  rw [isDone] at h
  rw [toCome]
  split at h <;> simp_all

theorem isEnded_of_not_isDone (h : p.isDone = false) : p.isEnded = false := by
  rw [isDone] at h
  rw [isEnded]
  split at h <;> simp_all

theorem isDone_of_isEnded (h : p.isEnded = true) : p.isDone = true := by
  cases hd : p.isDone with
  | true => rfl
  | false => simp [isEnded_of_not_isDone hd] at h

theorem toCome_react (p : Pump) (i : Stream.Item) :
    (p.react i).toCome = deliveries p.replica (i :: p.source.toCome) := by
  rw [react, deliveries]
  cases reaction i <;> rfl

theorem isDone_react (p : Pump) (i : Stream.Item) : (p.react i).isDone = false := by
  rw [react]
  cases reaction i <;> rfl

theorem source_react (p : Pump) (i : Stream.Item) : (p.react i).source = p.source := by
  rw [react]
  cases reaction i <;> rfl

structure Carries (replicating : Bool) (a : Answer) (cancelled : Bool) (p : Pump) (c : Channel) :
    Prop where
  settled : p.source.decoder.Settled
  leftOpen : p.source.leftOpen = true → a.ending = .held
  whole : ∃ lost, expected replicating a.items = c.sent ++ p.toCome ++ lost ∧
    (lost = [] ∨ p.isDone = true ∧ (cancelled = true ∨ c.receiverGone = true))
  unfailed : p.isDone = false → ∀ f, .error f ∉ c.sent
  closed : c.senderGone = p.isEnded

theorem carries_start (generation : Nat) (hs : c.sent = []) (hg : c.senderGone = false) :
    (start generation a replicating).Carries replicating a cancelled c := by
  refine ⟨a.settled_sourceOf, a.leftOpen_sourceOf.1, ⟨[], ?_, .inl rfl⟩, ?_, hg⟩
  · rw [hs, List.nil_append, List.append_nil, expected, ← deliveries_eq a.items_pairwise,
      ← a.toCome_sourceOf]
    rfl
  · simp [hs]

theorem Carries.mono (h : p.Carries replicating a cancelled c) :
    p.Carries replicating a true c := by
  obtain ⟨hd, ho, ⟨lost, hw, hl⟩, hu, hc⟩ := h
  exact ⟨hd, ho, ⟨lost, hw, hl.imp_right fun hl => ⟨hl.1, .inl rfl⟩⟩, hu, hc⟩

theorem Carries.whole_of_not_isDone (h : p.Carries replicating a cancelled c)
    (hp : p.isDone = false) : expected replicating a.items = c.sent ++ p.toCome := by
  obtain ⟨lost, hw, rfl | hl⟩ := h.whole
  · rw [hw, List.append_nil]
  · simp [hp] at hl

theorem Carries.whole_of_undisturbed (h : p.Carries replicating a false c)
    (hr : c.receiverGone = false) : expected replicating a.items = c.sent ++ p.toCome := by
  obtain ⟨lost, hw, rfl | hl⟩ := h.whole
  · rw [hw, List.append_nil]
  · simp [hr] at hl

theorem Carries.keep (h : p.Carries replicating a cancelled c) (hd : q.source.decoder.Settled)
    (ho : q.source.leftOpen = p.source.leftOpen) (ht : q.toCome = p.toCome)
    (hs : e.sent = c.sent) (hp : p.isDone = true → q.isDone = true)
    (hr : c.receiverGone = true → e.receiverGone = true) (hc : e.senderGone = q.isEnded) :
    q.Carries replicating a cancelled e := by
  obtain ⟨lost, hw, hl⟩ := h.whole
  refine ⟨hd, fun hopen => h.leftOpen (ho ▸ hopen), ⟨lost, ?_, ?_⟩, ?_, hc⟩
  · rw [ht, hs, hw]
  · exact hl.imp_right fun hl => ⟨hp hl.1, hl.2.imp_right hr⟩
  · intro hq
    rw [hs]
    refine h.unfailed ?_
    cases hpd : p.isDone with
    | true => exact absurd (hp hpd) (by simp [hq])
    | false => rfl

theorem Carries.drop (h : p.Carries replicating a cancelled c) (hp : p.isDone = false)
    (hl : cancelled = true ∨ c.receiverGone = true) :
    ({ p with point := .retiring } : Pump).Carries replicating a cancelled c := by
  refine ⟨h.settled, h.leftOpen, ⟨p.toCome, ?_, .inr ⟨rfl, hl⟩⟩, by simp [isDone], ?_⟩
  · rw [h.whole_of_not_isDone hp]
    simp [toCome]
  · rw [h.closed, isEnded_of_not_isDone hp]
    rfl

theorem Carries.deliver {d : Delivery} (h : p.Carries replicating a cancelled c)
    (hp : p.point = .sending d true) :
    ({ p with point := afterSending d } : Pump).Carries replicating a cancelled (c.put d) := by
  have hdone : p.isDone = false := by rw [isDone, hp]
  have hw := h.whole_of_not_isDone hdone
  have hc : c.senderGone = false := by rw [h.closed, isEnded, hp]
  cases d with
  | ok event =>
      refine ⟨h.settled, h.leftOpen, ⟨[], ?_, .inl rfl⟩, ?_, hc⟩
      · rw [hw, toCome, hp]
        simp [toCome, afterSending, Channel.put]
      · simpa [Channel.put] using fun _ => h.unfailed hdone
  | error f =>
      refine ⟨h.settled, h.leftOpen, ⟨[], ?_, .inl rfl⟩, by simp [isDone, afterSending], hc⟩
      rw [hw, toCome, hp]
      simp [toCome, afterSending, Channel.put]

theorem Carries.step {s t : Controller} {d : Option Delivery}
    (h : p.Carries replicating a cancelled c) (hs : p.Step cancelled s c d t q e) :
    q.Carries replicating a cancelled e := by
  have hclosed := h.closed
  cases hs with
  | giveUp hp hc => exact h.drop hp (.inl hc)
  | lose d hp hc => exact h.drop (by rw [isDone, hp]) (.inr hc)
  | deliver d hp => exact h.deliver hp
  | take i source hp hi =>
      have hpoll := Stream.Source.poll_spec h.settled
      rw [hi] at hpoll
      obtain ⟨hd, ho, hl⟩ := hpoll
      have hnext : p.source.toCome = i :: source.toCome := hl
      have hdone := isDone_react { p with source } i
      refine h.keep ?_ ?_ ?_ rfl ?_ id ?_
      · rwa [source_react]
      · rw [source_react, ho]
      · rw [toCome_react, toCome, hp, hnext]
      · simp [isDone, hp]
      · rw [hclosed, isEnded_of_not_isDone hdone, isEnded, hp]
  | finish source hp hi =>
      have hpoll := Stream.Source.poll_spec h.settled
      rw [hi] at hpoll
      obtain ⟨hd, ho, hl⟩ := hpoll
      have hnext : p.source.toCome = [] := hl
      refine h.keep hd ho ?_ rfl (fun _ => rfl) id ?_
      · simp [toCome, hp, hnext, deliveries]
      · simp [hclosed, isEnded, hp]
  | look d hp | wait d hp =>
      refine h.keep h.settled rfl ?_ rfl ?_ id ?_
      · cases d <;> simp [toCome, hp]
      · simp [isDone, hp]
      · simp [hclosed, isEnded, hp]
  | mark f hp =>
      refine h.keep h.settled rfl ?_ rfl ?_ id ?_
      · simp [toCome, hp]
      · simp [isDone, hp]
      · simp [hclosed, isEnded, hp]
  | retire hp =>
      refine h.keep h.settled rfl ?_ rfl (fun _ => rfl) id ?_
      · simp [toCome, hp]
      · simp [hclosed, isEnded, hp]
  | close hp =>
      refine h.keep h.settled rfl ?_ rfl (fun _ => rfl) id rfl
      simp [toCome, hp]
  | receive e d hc =>
      obtain ⟨rfl, -⟩ := Channel.take?_eq_some hc
      exact h.keep h.settled rfl rfl rfl id id hclosed
  | dropReceiver => exact h.keep h.settled rfl rfl rfl id (fun _ => rfl) hclosed

end Pump

end LiveTree.Watch
