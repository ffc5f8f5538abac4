import LiveTree.Proofs.Watch.Pumping
import LiveTree.Proofs.Watch.Shifts

namespace LiveTree.Watch

/-- A call is active from the section that starts its pump until the pump can no longer send
anything. It is settled once its pump has given up the controller. -/
inductive Stage where
  | outside
  | opening (generation : Nat)
  | active (generation : Nat)
  | retiring (generation : Nat)
  | settled (generation : Nat)
  | refused
  deriving DecidableEq

def Stage.generation? : Stage → Option Nat
  | .opening g | .active g | .retiring g | .settled g => some g
  | .outside | .refused => none

def Pump.stage (p : Pump) : Stage :=
  match p.point with
  | .polling | .sending _ _ | .marking _ => .active p.generation
  | .retiring => .retiring p.generation
  | .closing | .ended => .settled p.generation

def Call.stage (c : Call) : Stage :=
  match c.point with
  | .entering => .outside
  | .awaiting g _ | .withdrawing g _ | .connected g _ => .opening g
  | .pumping p => p.stage
  | .refused _ | .abandoned => .refused

/-- What a step of the call of some number does to the controller and to the stage of the call. -/
inductive Call.Effect (number : Nat) (s t : Controller) : Stage → Stage → Prop
  | stay (a) (hs : t = s) : Effect number s t a a
  | refuse (hs : t = s) : Effect number s t .outside .refused
  | enter (hs : s.begin? number = some t) : Effect number s t .outside (.opening t.generation)
  | settle (g) (hs : t = s.settle g) : Effect number s t (.opening g) .refused
  | overtaken (g) (hn : s.establish? g number = none) (hs : t = s) :
      Effect number s t (.opening g) .refused
  | establish (g) (hs : s.establish? g number = some t) :
      Effect number s t (.opening g) (.active g)
  | abandon (g) (hs : t = s) : Effect number s t (.opening g) .refused
  | mark (g) (hs : t = s.markFailed g) : Effect number s t (.active g) (.active g)
  | exhaust (g) (hs : t = s) : Effect number s t (.active g) (.retiring g)
  | retire (g) (hs : t = s.settle g) : Effect number s t (.retiring g) (.settled g)

theorem Pump.stage_of_not_isDone {p : Pump} (h : p.isDone = false) :
    p.stage = .active p.generation := by
  obtain ⟨g, source, replica, point⟩ := p
  cases point with
  | polling | sending | marking => rfl
  | retiring | closing | ended => simp [isDone] at h

theorem Pump.stage_react (p : Pump) (i : Stream.Item) :
    (p.react i).stage = .active p.generation := by
  rw [react]
  split <;> rfl

theorem Pump.Step.effect {number : Nat} {cancelled : Bool} {s t : Controller} {p q : Pump}
    {c e : Channel} {d : Option Delivery} (h : p.Step cancelled s c d t q e) :
    Call.Effect number s t p.stage q.stage := by
  cases h with
  | giveUp hp =>
      rw [stage_of_not_isDone hp]
      exact .exhaust p.generation rfl
  | take i source hp =>
      rw [stage_react, stage, hp]
      exact .stay (.active p.generation) rfl
  | finish source hp | lose d hp =>
      rw [stage, hp]
      exact .exhaust p.generation rfl
  | look d hp | wait d hp =>
      rw [stage, hp]
      exact .stay (.active p.generation) rfl
  | deliver d hp =>
      rw [stage, hp]
      cases d with
      | ok event => exact .stay (.active p.generation) rfl
      | error f => exact .exhaust p.generation rfl
  | mark f hp =>
      rw [stage, hp]
      exact .mark p.generation rfl
  | retire hp =>
      rw [stage, hp]
      exact .retire p.generation rfl
  | close hp =>
      rw [stage, hp]
      exact .stay (.settled p.generation) rfl
  | receive | dropReceiver => exact .stay p.stage rfl

theorem Call.Opening.effect {number : Nat} {s t : Controller} {c d : Call}
    (h : c.Opening number s t d) : Effect number s t c.stage d.stage := by
  cases h with
  | reject f hc =>
      rw [stage, hc]
      exact .refuse rfl
  | enter _ hc ht =>
      rw [stage, hc]
      exact .enter ht
  | issue g hc | answer g a hc | withdraw g issued f hc =>
      rw [stage, hc]
      exact .stay (.opening g) rfl
  | settle g f hc =>
      rw [stage, hc]
      exact .settle g rfl
  | establish g a _ hc ht =>
      rw [stage, hc]
      exact .establish g ht
  | overtaken g a hc ht =>
      rw [stage, hc]
      exact .overtaken g ht rfl
  | abandon g issued hc =>
      rw [stage, hc]
      exact .abandon g rfl
  | receive | dropReceiver => exact .stay c.stage rfl

theorem CallMove.fire_effect {number : Nat} {cancelled : Bool} {s t : Controller} {c d : Call}
    {m : CallMove} (h : m.fire number cancelled s c = some (t, d)) :
    Call.Effect number s t c.stage d.stage := by
  cases hp : c.pump? with
  | none => exact (fire_outside h hp).1.effect
  | some p =>
      have hc := Call.pump?_eq_some.1 hp
      obtain ⟨q, hq, -, hs⟩ := fire_pump h hc
      rw [Call.stage, Call.stage, hc, hq]
      exact hs.effect

theorem Call.Effect.shift {number : Nat} {s t : Controller} {a b : Stage}
    (h : Effect number s t a b) : s.Shift t := by
  cases h with
  | enter hs =>
      obtain ⟨hp, rfl⟩ := Controller.begin?_eq_some hs
      exact .claim number hp
  | establish g hs =>
      obtain ⟨-, hp, rfl⟩ := Controller.establish?_eq_some hs
      exact .stream number hp
  | settle g hs | retire g hs =>
      rw [hs]
      exact s.shift_settle g
  | mark g hs =>
      rw [hs]
      exact s.shift_markFailed g
  | stay _ hs | refuse hs | overtaken _ _ hs | abandon _ hs | exhaust _ hs =>
      rw [hs]
      exact .same

namespace StopMove

/-- What a step of a call to stop does to the controller, which watch it cancels, and where the call
then stands. -/
inductive Effect (hasEnded : Nat → Bool) (s t : Controller) :
    StopPoint → Option Nat → StopPoint → Prop
  | already (hp : s.phase = .idle) (hs : t = s) : Effect hasEnded s t .entering none .returned
  | share (hp : s.phase = .stopping) (hs : t = s) :
      Effect hasEnded s t .entering none (.joining t.generation t.stopping)
  | take (hi : s.phase ≠ .idle) (hn : s.phase ≠ .stopping)
      (hs : t = { s with phase := .stopping, cancel := none, worker := none,
                         stopping := some s.worker }) :
      Effect hasEnded s t .entering s.cancel (.joining t.generation t.stopping)
  | join (g) (j : Option Join) (hj : (awaited? j).all hasEnded = true) (hs : t = s) :
      Effect hasEnded s t (.joining g j) none (.leaving g)
  | leave (g) (hs : t = s.finishStop g) : Effect hasEnded s t (.leaving g) none .returned
  | abandon (g) (j : Option Join) (hs : t = s) : Effect hasEnded s t (.joining g j) none .abandoned

theorem fire_effect {hasEnded : Nat → Bool} {s t : Controller} {p q : StopPoint}
    {cancelled : Option Nat} {m : StopMove} (h : m.fire hasEnded s p = some (t, cancelled, q)) :
    Effect hasEnded s t p cancelled q := by
  cases m with
  | enter =>
      cases p <;> simp only [fire, reduceCtorEq] at h
      obtain ⟨hp, hb⟩ | ⟨hp, hb⟩ | ⟨hi, hn, hb⟩ := s.beginStop_cases
      · simp only [hb, Option.some.injEq, Prod.mk.injEq] at h
        obtain ⟨rfl, rfl, rfl⟩ := h
        exact .already hp rfl
      · simp only [hb, Option.some.injEq, Prod.mk.injEq] at h
        obtain ⟨rfl, rfl, rfl⟩ := h
        exact .share hp rfl
      · simp only [hb, Option.some.injEq, Prod.mk.injEq] at h
        obtain ⟨rfl, rfl, rfl⟩ := h
        exact .take hi hn rfl
  | join =>
      cases p <;> simp only [fire, reduceCtorEq] at h
      split at h
      · next hj =>
          simp only [Option.some.injEq, Prod.mk.injEq] at h
          obtain ⟨rfl, rfl, rfl⟩ := h
          exact .join _ _ hj rfl
      · simp at h
  | leave =>
      cases p <;> simp only [fire, reduceCtorEq, Option.some.injEq, Prod.mk.injEq] at h
      obtain ⟨rfl, rfl, rfl⟩ := h
      exact .leave _ rfl
  | abandon =>
      cases p <;> simp only [fire, reduceCtorEq, Option.some.injEq, Prod.mk.injEq] at h
      obtain ⟨rfl, rfl, rfl⟩ := h
      exact .abandon _ _ rfl

theorem Effect.shift {hasEnded : Nat → Bool} {s t : Controller} {p q : StopPoint}
    {cancelled : Option Nat} (h : Effect hasEnded s t p cancelled q) : s.Shift t := by
  cases h with
  | take hi hn hs =>
      rw [hs]
      exact .stop hi hn
  | leave g hs =>
      rw [hs]
      exact s.shift_finishStop g
  | already _ hs | share _ hs | join _ _ _ hs | abandon _ _ hs =>
      rw [hs]
      exact .same

end StopMove

end LiveTree.Watch
