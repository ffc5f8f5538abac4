import Mathlib.Data.List.Induction
import LiveTree.Dialling
import LiveTree.Proofs.Positions

namespace LiveTree.Dialling

variable {κ ε : Type} {timer : Instant → Span → Instant} {now : Instant} {a b : Attempt κ ε}
  {s t u : Dialling κ ε} {m : Move κ ε} {moves : List (Move κ ε)} {i : Nat}

namespace Attempt

/-- Whether the timer of a dial that is polled now has this deadline. The first poll sets it. -/
def Due (timer : Instant → Span → Instant) (now deadline : Instant) (a : Attempt κ ε) : Prop :=
  a.point = .unpolled ∧ deadline = timer now a.budget ∨ a.point = .waiting deadline

inductive Step (timer : Instant → Span → Instant) (now : Instant) (a : Attempt κ ε) :
    Act κ ε → Attempt κ ε → Prop
  | start (hp : a.point = .called) :
      Step timer now a .start { a with started := now, point := .unpolled }
  | answer (r : Except ε κ) (fired : Bool) (deadline : Instant) (hd : a.Due timer now deadline) :
      Step timer now a (.poll (some r) fired) { a with point := .measuring (.answered r) }
  | elapse (deadline : Instant) (hd : a.Due timer now deadline) (hle : deadline.nanos ≤ now.nanos) :
      Step timer now a (.poll none true) { a with point := .measuring .elapsed }
  | wait (deadline : Instant) (hd : a.Due timer now deadline) :
      Step timer now a (.poll none false) { a with point := .waiting deadline }
  | drop (hp : a.point = .unpolled ∨ ∃ deadline, a.point = .waiting deadline) :
      Step timer now a .drop { a with point := .releasing .dropped none }
  | measure (e : Exit κ ε) (hp : a.point = .measuring e) :
      Step timer now a .measure
        { a with point := .storing e (Allowance.remaining a.budget (now.since a.started)) }
  | store (e : Exit κ ε) (left : Allowance) (hp : a.point = .storing e left) :
      Step timer now a .store { a with recorded := true, point := .releasing e (some left) }
  | release (e : Exit κ ε) (left : Option Allowance) (hp : a.point = .releasing e left)
      (hr : a.recorded = true) : Step timer now a .release { a with point := .settled e left }
  | resume (e : Exit κ ε) (left : Option Allowance) (hp : a.point = .releasing e left)
      (hr : a.recorded = false) : Step timer now a .release { a with point := .measuring e }

theorem step_of_poll? {deadline : Instant} {answer : Option (Except ε κ)} {fired : Bool}
    (h : a.poll? now deadline answer fired = some b) (hd : a.Due timer now deadline) :
    a.Step timer now (.poll answer fired) b := by
  cases answer with
  | some r =>
      obtain rfl := Option.some.inj h
      exact .answer r fired deadline hd
  | none =>
      cases fired with
      | false =>
          obtain rfl := Option.some.inj h
          exact .wait deadline hd
      | true =>
          simp only [poll?, Bool.not_true, Bool.false_eq_true, if_false] at h
          split at h
          · next hle =>
              obtain rfl := Option.some.inj h
              exact .elapse deadline hd hle
          · exact nomatch h

theorem step_of_fire {act : Act κ ε} (h : a.fire timer now act = some b) :
    a.Step timer now act b := by
  cases act with
  | poll answer fired =>
      rw [fire] at h
      split at h
      · next hp => exact step_of_poll? h (.inl ⟨hp, rfl⟩)
      · next deadline hp => exact step_of_poll? h (.inr hp)
      · exact nomatch h
  | start =>
      rw [fire] at h
      split at h
      · next hp =>
          obtain rfl := Option.some.inj h
          exact .start hp
      · exact nomatch h
  | drop =>
      rw [fire] at h
      split at h
      · next hp =>
          obtain rfl := Option.some.inj h
          exact .drop (.inl hp)
      · next deadline hp =>
          obtain rfl := Option.some.inj h
          exact .drop (.inr ⟨deadline, hp⟩)
      · exact nomatch h
  | measure =>
      rw [fire] at h
      split at h
      · next e hp =>
          obtain rfl := Option.some.inj h
          exact .measure e hp
      · exact nomatch h
  | store =>
      rw [fire] at h
      split at h
      · next e left hp =>
          obtain rfl := Option.some.inj h
          exact .store e left hp
      · exact nomatch h
  | release =>
      rw [fire] at h
      split at h
      · next e left hp =>
          obtain rfl := Option.some.inj h
          by_cases hr : a.recorded = true
          · rw [if_pos hr]
            exact .release e left hp hr
          · rw [if_neg hr]
            exact .resume e left hp (Bool.eq_false_iff.2 hr)
      · exact nomatch h

def exit? (a : Attempt κ ε) : Option (Exit κ ε) :=
  match a.point with
  | .measuring e | .storing e _ | .releasing e _ | .settled e _ => some e
  | .called | .unpolled | .waiting _ => none

def measured? (a : Attempt κ ε) : Option Allowance :=
  match a.point with
  | .storing _ left => some left
  | .releasing _ left | .settled _ left => left
  | .called | .unpolled | .waiting _ | .measuring _ => none

def record? (a : Attempt κ ε) : Option Allowance :=
  match a.point with
  | .releasing _ left | .settled _ left => left
  | .called | .unpolled | .waiting _ | .measuring _ | .storing _ _ => none

variable {act : Act κ ε}

theorem Step.budget (h : a.Step timer now act b) : b.budget = a.budget := by
  cases h <;> rfl

theorem Step.started (h : a.Step timer now act b) :
    act = .start ∧ b.started = now ∨ a.point ≠ .called ∧ b.started = a.started := by
  cases h with
  | start => exact .inl ⟨rfl, rfl⟩
  | answer _ _ _ hd | elapse _ hd | wait _ hd =>
      refine .inr ⟨?_, rfl⟩
      obtain ⟨hp, -⟩ | hp := hd <;> simp [hp]
  | drop hp =>
      refine .inr ⟨?_, rfl⟩
      obtain hp | ⟨deadline, hp⟩ := hp <;> simp [hp]
  | measure _ hp | store _ _ hp | release _ _ hp | resume _ _ hp => exact .inr ⟨by simp [hp], rfl⟩

theorem Step.waiting {deadline : Instant} (h : a.Step timer now act b)
    (hb : b.point = .waiting deadline) :
    act = .poll none false ∧ a.Due timer now deadline := by
  cases h with
  | wait _ hd =>
      obtain rfl := Point.waiting.inj hb
      exact ⟨rfl, hd⟩
  | start | answer | elapse | drop | measure | store | release | resume => exact nomatch hb

/-- The wait for a connection ends once: at a poll that finds the answer or the timer, or when the
dial is dropped. -/
theorem Step.exit? {e : Exit κ ε} (h : a.Step timer now act b) (hb : b.exit? = some e) :
    a.exit? = some e ∨ (∃ r fired, act = .poll (some r) fired ∧ e = .answered r) ∨
      (act = .poll none true ∧ e = .elapsed ∧
        ∃ deadline, a.Due timer now deadline ∧ deadline.nanos ≤ now.nanos) ∨
      act = .drop ∧ e = .dropped := by
  cases h with
  | start | wait => exact nomatch hb
  | answer r fired => exact .inr (.inl ⟨r, fired, rfl, (Option.some.inj hb).symm⟩)
  | elapse deadline hd hle =>
      exact .inr (.inr (.inl ⟨rfl, (Option.some.inj hb).symm, deadline, hd, hle⟩))
  | drop => exact .inr (.inr (.inr ⟨rfl, (Option.some.inj hb).symm⟩))
  | measure _ hp | store _ _ hp | release _ _ hp | resume _ _ hp =>
      rw [← hb, Attempt.exit?, hp]
      exact .inl rfl

theorem Step.measured? {left : Allowance} (h : a.Step timer now act b)
    (hb : b.measured? = some left) : b.started = a.started ∧ (a.measured? = some left ∨
      act = .measure ∧ left = Allowance.remaining a.budget (now.since a.started)) := by
  cases h with
  | start | answer | elapse | wait | drop | resume => exact nomatch hb
  | measure => exact ⟨rfl, .inr ⟨rfl, (Option.some.inj hb).symm⟩⟩
  | store _ _ hp | release _ _ hp =>
      rw [← hb, Attempt.measured?, hp]
      exact ⟨rfl, .inl rfl⟩

/-- The guard knows whether it has recorded, and a dial is not over before it has. -/
structure Sound (a : Attempt κ ε) : Prop where
  recorded : a.recorded = a.record?.isSome
  settled : ∀ e left, a.point = .settled e left → a.recorded = true

theorem Sound.step (h : a.Sound) (hs : a.Step timer now act b) : b.Sound := by
  have hrecorded := h.recorded
  cases hs with
  | start hp | measure _ hp =>
      rw [record?, hp] at hrecorded
      exact ⟨hrecorded, nofun⟩
  | answer _ _ _ hd | elapse _ hd | wait _ hd =>
      obtain ⟨hp, -⟩ | hp := hd <;> rw [record?, hp] at hrecorded <;> exact ⟨hrecorded, nofun⟩
  | drop hp =>
      obtain hp | ⟨deadline, hp⟩ := hp <;> rw [record?, hp] at hrecorded <;>
        exact ⟨hrecorded, nofun⟩
  | store => exact ⟨rfl, nofun⟩
  | release e left hp hr =>
      rw [record?, hp] at hrecorded
      exact ⟨hrecorded, fun _ _ _ => hr⟩
  | resume e left hp hr => exact ⟨hr, nofun⟩

/-- What a dial has recorded after a step is what it had recorded before, or has stored just now. -/
theorem Sound.record? (h : a.Sound) (hs : a.Step timer now act b) :
    b.record?.toList = a.record?.toList ++ (a.stored? act).toList := by
  have hrecorded := h.recorded
  cases hs with
  | start hp | measure _ hp | release _ _ hp => simp [Attempt.record?, stored?, hp]
  | answer _ _ _ hd | elapse _ hd | wait _ hd =>
      obtain ⟨hp, -⟩ | hp := hd <;> simp [Attempt.record?, stored?, hp]
  | drop hp => obtain hp | ⟨deadline, hp⟩ := hp <;> simp [Attempt.record?, stored?, hp]
  | store e left hp => simp [Attempt.record?, stored?, hp]
  | resume e left hp hr =>
      -- a guard that has to record again has not recorded yet
      rw [hr, Attempt.record?, hp] at hrecorded
      cases left with
      | none => simp [Attempt.record?, stored?, hp]
      | some left => exact nomatch hrecorded

theorem result?_eq_ok_iff {e : Exit κ ε} {left : Allowance} {c : κ}
    (hp : a.point = .settled e (some left)) :
    a.result? = some (.ok c) ↔ e = .answered (.ok c) ∧ 0 < left.nanos := by
  rw [result?, hp, ← Int.not_le]
  cases e with
  | answered r =>
      cases r with
      | ok d => by_cases hl : left.nanos ≤ 0 <;> simp [Allowance.isSpent, hl]
      | error => simp
  | elapsed | dropped => simp

theorem result?_eq_refused_iff {e : Exit κ ε} {left : Allowance} {f : ε}
    (hp : a.point = .settled e (some left)) :
    a.result? = some (.error (.refused f)) ↔ e = .answered (.error f) := by
  rw [result?, hp]
  cases e with
  | answered r =>
      cases r with
      | ok c => by_cases hl : left.nanos ≤ 0 <;> simp [Allowance.isSpent, hl]
      | error => simp
  | elapsed | dropped => simp

theorem result?_eq_timedOut_iff {e : Exit κ ε} {left : Allowance} {d : Span}
    (hp : a.point = .settled e (some left)) :
    a.result? = some (.error (.timedOut d)) ↔
      d = a.budget ∧ (e = .elapsed ∨ (∃ c, e = .answered (.ok c)) ∧ left.nanos ≤ 0) := by
  rw [result?, hp]
  cases e with
  | answered r =>
      cases r with
      | ok c => by_cases hl : left.nanos ≤ 0 <;> simp [Allowance.isSpent, hl, eq_comm]
      | error => simp
  | elapsed => simp [eq_comm]
  | dropped => simp

theorem record?_of_exit? (h : a.exit? = none) : a.record? = none ∧ a.result? = none := by
  rw [Attempt.exit?] at h
  rw [Attempt.record?, result?]
  cases hp : a.point with
  | called | unpolled | waiting => exact ⟨rfl, rfl⟩
  | measuring | storing | releasing | settled =>
      rw [hp] at h
      exact nomatch h

end Attempt

theorem run_append (before after : List (Move κ ε)) (s : Dialling κ ε) :
    run timer (before ++ after) s = run timer before s >>= run timer after := by
  induction before generalizing s with
  | nil => rfl
  | cons m moves ih =>
      simp only [List.cons_append, run]
      cases s.fire timer m with
      | none => rfl
      | some u => exact ih u

theorem run_concat : run timer (moves ++ [m]) s = some u ↔
    ∃ t, run timer moves s = some t ∧ t.fire timer m = some u := by
  simp [run_append, run, Option.bind_eq_some_iff]

/-- What holds at the beginning of a run, and is kept by every step behind one, holds at its end. -/
theorem run_induction {P : List (Move κ ε) → Dialling κ ε → Prop} (hnil : P [] s)
    (hstep : ∀ moves m t u, run timer moves s = some t → t.fire timer m = some u → P moves t →
      P (moves ++ [m]) u) (hu : run timer moves s = some u) : P moves u := by
  induction moves using List.reverseRecOn generalizing u with
  | nil => exact Option.some.inj hu ▸ hnil
  | append_singleton moves m ih =>
      obtain ⟨t, ht, hm⟩ := run_concat.1 hu
      exact hstep moves m t u ht hm (ih ht)

def Makes (timer : Instant → Span → Instant) (s : Dialling κ ε) (moves : List (Move κ ε))
    (m : Move κ ε) (t : Dialling κ ε) : Prop :=
  ∃ before after, moves = before ++ m :: after ∧ run timer before s = some t

theorem Makes.concat {k : Move κ ε} (h : Makes timer s moves m t) :
    Makes timer s (moves ++ [k]) m t := by
  obtain ⟨before, after, rfl, ht⟩ := h
  exact ⟨before, after ++ [k], by simp, ht⟩

theorem makes_last (h : run timer moves s = some t) (m : Move κ ε) :
    Makes timer s (moves ++ [m]) m t :=
  ⟨moves, [], rfl, h⟩

/-- What has been written, and the number of the dial that has written it, if one has. -/
structure Entry where
  writer : Option Nat
  left : Allowance
  deriving DecidableEq

def written? (s : Dialling κ ε) : Move κ ε → Option Entry
  | .setAllowance a => some ⟨none, a⟩
  | .act i act => (s.attempts[i]?).bind fun a => (a.stored? act).map (⟨some i, ·⟩)
  | .wait _ | .setBudget _ | .call => none

def ledger (timer : Instant → Span → Instant) : List (Move κ ε) → Dialling κ ε → List Entry
  | [], _ => []
  | m :: moves, s =>
      (s.written? m).toList ++ ((s.fire timer m).map (ledger timer moves)).getD []

def entriesOf (i : Nat) (entries : List Entry) : List Allowance :=
  (entries.filter (·.writer = some i)).map (·.left)

theorem ledger_concat (ht : run timer moves s = some t) (m : Move κ ε) :
    ledger timer (moves ++ [m]) s = ledger timer moves s ++ (t.written? m).toList := by
  induction moves generalizing s with
  | nil =>
      obtain rfl := Option.some.inj ht
      cases hf : s.fire timer m <;> simp [ledger, hf]
  | cons k moves ih =>
      obtain ⟨u, hu, ht⟩ := Option.bind_eq_some_iff.1 ht
      simp only [List.cons_append, ledger, hu, Option.map_some, Option.getD_some, ih ht,
        List.append_assoc]

theorem entriesOf_append (i : Nat) (entries more : List Entry) :
    entriesOf i (entries ++ more) = entriesOf i entries ++ entriesOf i more := by
  simp [entriesOf]

theorem act?_eq_some {act : Act κ ε} (h : s.act? timer i act = some t) : ∃ a b,
    s.attempts[i]? = some a ∧ a.fire timer s.now act = some b ∧
      t = { s with
        allowance := (a.stored? act).getD s.allowance
        attempts := s.attempts.set i b } := by
  rw [act?] at h
  split at h
  · exact nomatch h
  · next a ha =>
      obtain ⟨b, hb, rfl⟩ := Option.map_eq_some_iff.1 h
      exact ⟨a, b, ha, hb, rfl⟩

theorem allowance_fire (h : s.fire timer m = some t) :
    t.allowance = ((s.written? m).map (·.left)).getD s.allowance := by
  cases m with
  | wait d =>
      obtain ⟨now, -, rfl⟩ := Option.map_eq_some_iff.1 h
      rfl
  | setBudget | setAllowance | call =>
      obtain rfl := Option.some.inj h
      rfl
  | act i act =>
      obtain ⟨a, b, ha, -, rfl⟩ := act?_eq_some h
      cases hs : a.stored? act <;> simp [written?, ha, hs]

theorem allowance_run (hu : run timer moves s = some u) :
    u.allowance = (((ledger timer moves s).getLast?).map (·.left)).getD s.allowance := by
  refine run_induction (P := fun moves u =>
    u.allowance = (((ledger timer moves s).getLast?).map (·.left)).getD s.allowance) rfl ?_ hu
  intro moves m t u ht hm hcell
  rw [allowance_fire hm, ledger_concat ht]
  cases t.written? m with
  | none => simpa using hcell
  | some e => simp

def SetsTimer (timer : Instant → Span → Instant) (s : Dialling κ ε) (moves : List (Move κ ε))
    (i : Nat) (budget : Span) (deadline : Instant) : Prop :=
  ∃ answer fired t a, Makes timer s moves (.act i (.poll answer fired)) t ∧
    t.attempts[i]? = some a ∧ a.point = .unpolled ∧ deadline = timer t.now budget

/-- A run ends a dial's wait for a connection so. -/
inductive Exits (timer : Instant → Span → Instant) (s : Dialling κ ε) (moves : List (Move κ ε))
    (i : Nat) (budget : Span) : Exit κ ε → Prop
  | answered {r : Except ε κ} {fired : Bool} {t : Dialling κ ε}
      (h : Makes timer s moves (.act i (.poll (some r) fired)) t) :
      Exits timer s moves i budget (.answered r)
  | elapsed {deadline : Instant} {t : Dialling κ ε}
      (hset : SetsTimer timer s moves i budget deadline)
      (h : Makes timer s moves (.act i (.poll none true)) t) (hle : deadline.nanos ≤ t.now.nanos) :
      Exits timer s moves i budget .elapsed
  | dropped {t : Dialling κ ε} (h : Makes timer s moves (.act i .drop) t) :
      Exits timer s moves i budget .dropped

theorem SetsTimer.concat {budget : Span} {deadline : Instant}
    (h : SetsTimer timer s moves i budget deadline) (m : Move κ ε) :
    SetsTimer timer s (moves ++ [m]) i budget deadline := by
  obtain ⟨answer, fired, t, a, ht, hrest⟩ := h
  exact ⟨answer, fired, t, a, ht.concat, hrest⟩

theorem Exits.concat {budget : Span} {e : Exit κ ε} (h : Exits timer s moves i budget e)
    (m : Move κ ε) : Exits timer s (moves ++ [m]) i budget e := by
  cases h with
  | answered h => exact .answered h.concat
  | elapsed hset h hle => exact .elapsed (hset.concat m) h.concat hle
  | dropped h => exact .dropped h.concat

/-- Everything a dial has, and everything it has written, comes from the moves of the run. -/
structure Accounted (timer : Instant → Span → Instant) (s : Dialling κ ε)
    (moves : List (Move κ ε)) (i : Nat) (a : Attempt κ ε) : Prop where
  sound : a.Sound
  called : ∃ t, Makes timer s moves .call t ∧ t.attempts.length = i ∧ a.budget = t.budget
  started : a.point = .called ∨ ∃ t, Makes timer s moves (.act i .start) t ∧ a.started = t.now
  deadline : ∀ deadline, a.point = .waiting deadline → SetsTimer timer s moves i a.budget deadline
  exit : ∀ e, a.exit? = some e → Exits timer s moves i a.budget e
  measured : ∀ left, a.measured? = some left → ∃ t, Makes timer s moves (.act i .measure) t ∧
    left = Allowance.remaining a.budget (t.now.since a.started)
  entries : entriesOf i (ledger timer moves s) = a.record?.toList

theorem entriesOf_written? {act : Act κ ε} (ha : t.attempts[i]? = some a) :
    entriesOf i (t.written? (.act i act)).toList = (a.stored? act).toList := by
  simp only [written?, ha, Option.bind_some]
  cases a.stored? act <;> simp [entriesOf]

theorem entriesOf_written?_of_ne (hm : ∀ act, m ≠ .act i act) (t : Dialling κ ε) :
    entriesOf i (t.written? m).toList = [] := by
  cases m with
  | wait | setBudget | setAllowance | call => rfl
  | act k act =>
      have hk : k ≠ i := fun hk => hm act (hk ▸ rfl)
      rw [written?]
      cases t.attempts[k]? with
      | none => rfl
      | some a =>
          rw [Option.bind_some]
          cases a.stored? act with
          | none => rfl
          | some left => simp [entriesOf, hk]

theorem Accounted.concat (h : Accounted timer s moves i a) (ht : run timer moves s = some t)
    (hm : ∀ act, m ≠ .act i act) : Accounted timer s (moves ++ [m]) i a := by
  refine ⟨h.sound, ?_, ?_, ?_, ?_, ?_, ?_⟩
  · obtain ⟨v, hv, hrest⟩ := h.called
    exact ⟨v, hv.concat, hrest⟩
  · exact h.started.imp_right fun ⟨v, hv, hnow⟩ => ⟨v, hv.concat, hnow⟩
  · exact fun deadline hp => (h.deadline deadline hp).concat m
  · exact fun e he => (h.exit e he).concat m
  · intro left hl
    obtain ⟨v, hv, hleft⟩ := h.measured left hl
    exact ⟨v, hv.concat, hleft⟩
  · rw [ledger_concat ht, entriesOf_append, entriesOf_written?_of_ne hm, List.append_nil, h.entries]

theorem Accounted.act {act : Act κ ε} (h : Accounted timer s moves i a)
    (ht : run timer moves s = some t) (ha : t.attempts[i]? = some a)
    (hs : a.Step timer t.now act b) : Accounted timer s (moves ++ [.act i act]) i b := by
  have hlast : Makes timer s (moves ++ [.act i act]) (.act i act) t := makes_last ht _
  -- the timer is set now if this is the first poll, or has been set already
  have hdue {deadline : Instant} {answer : Option (Except ε κ)} {fired : Bool}
      (hact : act = .poll answer fired) (hd : a.Due timer t.now deadline) :
      SetsTimer timer s (moves ++ [.act i act]) i a.budget deadline := by
    obtain ⟨hp, hdeadline⟩ | hp := hd
    · exact ⟨answer, fired, t, a, hact ▸ hlast, ha, hp, hdeadline⟩
    · exact (h.deadline deadline hp).concat _
  refine ⟨h.sound.step hs, ?_, ?_, ?_, ?_, ?_, ?_⟩
  · obtain ⟨v, hv, hi, hbudget⟩ := h.called
    exact ⟨v, hv.concat, hi, hs.budget.trans hbudget⟩
  · obtain ⟨rfl, hnow⟩ | ⟨hne, hstarted⟩ := hs.started
    · exact .inr ⟨t, hlast, hnow⟩
    · obtain ⟨v, hv, hnow⟩ := h.started.resolve_left hne
      exact .inr ⟨v, hv.concat, hstarted.trans hnow⟩
  · intro deadline hp
    obtain ⟨hact, hd⟩ := hs.waiting hp
    rw [hs.budget]
    exact hdue hact hd
  · intro e he
    rw [hs.budget]
    obtain he | ⟨r, fired, rfl, rfl⟩ | ⟨rfl, rfl, deadline, hd, hle⟩ | ⟨rfl, rfl⟩ := hs.exit? he
    · exact (h.exit e he).concat _
    · exact .answered hlast
    · exact .elapsed (hdue rfl hd) hlast hle
    · exact .dropped hlast
  · intro left hl
    obtain ⟨hstarted, hl | ⟨rfl, hleft⟩⟩ := hs.measured? hl
    · obtain ⟨v, hv, hleft⟩ := h.measured left hl
      rw [hs.budget, hstarted]
      exact ⟨v, hv.concat, hleft⟩
    · rw [hs.budget, hstarted]
      exact ⟨t, hlast, hleft⟩
  · rw [ledger_concat ht, entriesOf_append, h.entries, entriesOf_written? ha, h.sound.record? hs]

structure Balanced (timer : Instant → Span → Instant) (s : Dialling κ ε)
    (moves : List (Move κ ε)) (t : Dialling κ ε) : Prop where
  unmade : ∀ i, t.attempts.length ≤ i → entriesOf i (ledger timer moves s) = []
  made : ∀ i a, t.attempts[i]? = some a → Accounted timer s moves i a

theorem Balanced.of_attempts (h : Balanced timer s moves t) (ht : run timer moves s = some t)
    (hm : ∀ i act, m ≠ .act i act) (hu : u.attempts = t.attempts) :
    Balanced timer s (moves ++ [m]) u := by
  refine ⟨fun i hi => ?_, fun i a ha => ?_⟩
  · rw [ledger_concat ht, entriesOf_append, entriesOf_written?_of_ne (hm i), List.append_nil]
    exact h.unmade i (hu ▸ hi)
  · exact (h.made i a (hu ▸ ha)).concat ht (hm i)

theorem Balanced.call (h : Balanced timer s moves t) (ht : run timer moves s = some t) :
    Balanced timer s (moves ++ [.call])
      { t with attempts := t.attempts ++ [⟨t.budget, t.now, false, .called⟩] } := by
  have hsame (i : Nat) : entriesOf i (ledger timer (moves ++ [.call]) s) =
      entriesOf i (ledger timer moves s) := by
    rw [ledger_concat ht]
    exact congrArg (entriesOf i) (List.append_nil _)
  refine ⟨fun i hi => ?_, fun i a ha => ?_⟩
  · rw [hsame]
    exact h.unmade i (by simp at hi; omega)
  · obtain ha | ⟨hi, rfl⟩ := getElem?_concat_cases ha
    · exact (h.made i a ha).concat ht nofun
    · refine ⟨⟨rfl, nofun⟩, ⟨t, makes_last ht _, hi.symm, rfl⟩, .inl rfl, nofun, nofun, nofun, ?_⟩
      rw [hsame]
      exact h.unmade i (Nat.le_of_eq hi.symm)

theorem Balanced.act {act : Act κ ε} (h : Balanced timer s moves t)
    (ht : run timer moves s = some t) (ha : t.attempts[i]? = some a)
    (hs : a.Step timer t.now act b) (hu : u.attempts = t.attempts.set i b) :
    Balanced timer s (moves ++ [.act i act]) u := by
  have hi : i < t.attempts.length := (List.getElem?_eq_some_iff.1 ha).1
  have hother {k : Nat} (hk : k ≠ i) (act' : Act κ ε) : Move.act i act ≠ .act k act' := by
    intro he
    exact hk (Move.act.inj he).1.symm
  refine ⟨fun k hk => ?_, fun k c hc => ?_⟩
  · rw [hu, List.length_set] at hk
    have hne : k ≠ i := by omega
    rw [ledger_concat ht, entriesOf_append, entriesOf_written?_of_ne (hother hne), List.append_nil]
    exact h.unmade k hk
  · rw [hu] at hc
    by_cases hk : k = i
    · subst hk
      rw [List.getElem?_set_self hi] at hc
      obtain rfl := Option.some.inj hc
      exact (h.made k a ha).act ht ha hs
    · rw [List.getElem?_set_ne (Ne.symm hk)] at hc
      exact (h.made k c hc).concat ht (hother hk)

theorem balanced_run (hs : s.attempts = []) (hu : run timer moves s = some u) :
    Balanced timer s moves u := by
  refine run_induction (P := Balanced timer s) ⟨fun _ _ => rfl, ?_⟩ ?_ hu
  · intro i a ha
    rw [hs] at ha
    exact nomatch ha
  · intro moves m t u ht hm h
    cases m with
    | wait d =>
        obtain ⟨now, -, rfl⟩ := Option.map_eq_some_iff.1 hm
        exact h.of_attempts ht nofun rfl
    | setBudget | setAllowance =>
        obtain rfl := Option.some.inj hm
        exact h.of_attempts ht nofun rfl
    | call =>
        obtain rfl := Option.some.inj hm
        exact h.call ht
    | act i act =>
        obtain ⟨a, b, ha, hf, rfl⟩ := act?_eq_some hm
        exact h.act ht ha (Attempt.step_of_fire hf) rfl

/-- Whatever has been written for a dial is the one thing that this dial has recorded. -/
theorem Balanced.entriesOf_of_mem (h : Balanced timer s moves u) {left : Allowance}
    (hl : (⟨some i, left⟩ : Entry) ∈ ledger timer moves s) :
    ∃ a, u.attempts[i]? = some a ∧ entriesOf i (ledger timer moves s) = [left] := by
  have hmem : left ∈ entriesOf i (ledger timer moves s) :=
    List.mem_map.2 ⟨_, List.mem_filter.2 ⟨hl, by simp⟩, rfl⟩
  obtain hi | hi := Nat.lt_or_ge i u.attempts.length
  · have ha := List.getElem?_eq_getElem hi
    have hentries := (h.made i _ ha).entries
    rw [hentries, Option.mem_toList] at hmem
    exact ⟨_, ha, by rw [hentries, hmem, Option.toList_some]⟩
  · rw [h.unmade i hi] at hmem
    exact nomatch hmem

theorem Accounted.length_le (h : Accounted timer s moves i a) :
    (entriesOf i (ledger timer moves s)).length ≤ 1 := by
  rw [h.entries]
  exact Option.length_toList_le

theorem Accounted.settled (h : Accounted timer s moves i a) {e : Exit κ ε} {l : Option Allowance}
    (hp : a.point = .settled e l) : ∃ v w left, Makes timer s moves (.act i .start) v ∧
      Makes timer s moves (.act i .measure) w ∧
      left = Allowance.remaining a.budget (w.now.since v.now) ∧ l = some left ∧
      entriesOf i (ledger timer moves s) = [left] := by
  have hrecorded := h.sound.recorded
  rw [h.sound.settled e l hp, Attempt.record?, hp] at hrecorded
  obtain ⟨left, rfl⟩ := Option.isSome_iff_exists.1 hrecorded.symm
  obtain ⟨v, hv, hstarted⟩ := h.started.resolve_left (by simp [hp])
  obtain ⟨w, hw, hleft⟩ := h.measured left (by rw [Attempt.measured?, hp])
  rw [hstarted] at hleft
  exact ⟨v, w, left, hv, hw, hleft, rfl, by rw [h.entries, Attempt.record?, hp]; rfl⟩

/-- Steps of one dial at one time, and what the allowance comes to by them. -/
def Attempt.fires (timer : Instant → Span → Instant) (now : Instant) :
    List (Act κ ε) → Attempt κ ε → Allowance → Option (Attempt κ ε × Allowance)
  | [], a, left => some (a, left)
  | act :: acts, a, left =>
      (a.fire timer now act).bind fun b => b.fires timer now acts ((a.stored? act).getD left)

theorem run_acts {acts : List (Act κ ε)} {left : Allowance} (ha : s.attempts[i]? = some a)
    (hf : a.fires timer s.now acts s.allowance = some (b, left)) :
    run timer (acts.map (.act i)) s =
      some { s with allowance := left, attempts := s.attempts.set i b } := by
  induction acts generalizing s a with
  | nil =>
      obtain ⟨rfl, rfl⟩ := Prod.mk.inj (Option.some.inj hf)
      obtain ⟨hi, rfl⟩ := List.getElem?_eq_some_iff.1 ha
      rw [List.set_getElem_self]
      rfl
  | cons act acts ih =>
      obtain ⟨c, hc, hf⟩ := Option.bind_eq_some_iff.1 hf
      have hi : i < s.attempts.length := (List.getElem?_eq_some_iff.1 ha).1
      have hfire : s.fire timer (.act i act) = some { s with
          allowance := (a.stored? act).getD s.allowance
          attempts := s.attempts.set i c } := by
        simp only [fire, act?, ha, hc, Option.map_some]
      rw [List.map_cons, run, hfire, Option.bind_eq_bind, Option.bind_some]
      exact (ih (List.getElem?_set_self hi) hf).trans (by rw [List.set_set])

/-- By steps of its own the dial can settle, with something recorded. -/
def Settles (timer : Instant → Span → Instant) (i : Nat) (e : Exit κ ε) (s : Dialling κ ε) : Prop :=
  ∃ (acts : List (Act κ ε)) (u : Dialling κ ε) (a : Attempt κ ε) (left : Allowance),
    run timer (acts.map (.act i)) s = some u ∧ u.attempts[i]? = some a ∧
      a.point = .settled e (some left)

theorem settles_of_fires (acts : List (Act κ ε)) {e : Exit κ ε} {left next : Allowance}
    (ha : s.attempts[i]? = some a)
    (hf : a.fires timer s.now acts s.allowance = some (b, next))
    (hp : b.point = .settled e (some left)) : Settles timer i e s :=
  have hi : i < s.attempts.length := (List.getElem?_eq_some_iff.1 ha).1
  ⟨acts, _, b, left, run_acts ha hf, List.getElem?_set_self hi, hp⟩

theorem settles_of_exit? {e : Exit κ ε} (h : a.Sound) (ha : s.attempts[i]? = some a)
    (he : a.exit? = some e) : Settles timer i e s := by
  obtain ⟨hrecorded, hsettled⟩ := h
  obtain ⟨budget, started, recorded, point⟩ := a
  cases point with
  | called | unpolled | waiting => exact nomatch he
  | measuring =>
      obtain rfl := Option.some.inj he
      exact settles_of_fires [.measure, .store, .release] ha rfl rfl
  | storing =>
      obtain rfl := Option.some.inj he
      exact settles_of_fires [.store, .release] ha rfl rfl
  | releasing _ left =>
      obtain rfl := Option.some.inj he
      obtain rfl : recorded = left.isSome := hrecorded
      cases left with
      | some left => exact settles_of_fires [.release] ha rfl rfl
      | none =>
          -- the guard goes away without having recorded, and so records now
          exact settles_of_fires [.release, .measure, .store, .release] ha rfl rfl
  | settled _ left =>
      obtain rfl := Option.some.inj he
      obtain rfl : recorded = true := hsettled _ left rfl
      obtain ⟨left, rfl⟩ := Option.isSome_iff_exists.1 hrecorded.symm
      exact settles_of_fires [] ha rfl rfl

/-- The account of dials that share a budget and an allowance, however their steps fall between one
another. The allowance is what has been written last, and what a dial has written is the one thing
it records. Each dial is limited by the budget that it reads when it is called; it records at most
once, not before its wait is over, and from then on can always come to have recorded. Once it is
over it has recorded what its own time left of its own budget: it gives its connection only if that
is more than nothing, hands on an error as it is, and otherwise tells that its own budget has run
out. -/
theorem dials_accounted (hs : s.attempts = []) (hu : run timer moves s = some u) :
    u.allowance = (((ledger timer moves s).getLast?).map (·.left)).getD s.allowance ∧
    (∀ i left, (⟨some i, left⟩ : Entry) ∈ ledger timer moves s →
      ∃ a, u.attempts[i]? = some a ∧ entriesOf i (ledger timer moves s) = [left]) ∧
    ∀ i a, u.attempts[i]? = some a →
      (∃ t, Makes timer s moves .call t ∧ t.attempts.length = i ∧ a.budget = t.budget) ∧
      (entriesOf i (ledger timer moves s)).length ≤ 1 ∧
      (a.exit? = none → entriesOf i (ledger timer moves s) = [] ∧ a.result? = none) ∧
      (∀ e, a.exit? = some e → Exits timer s moves i a.budget e ∧ Settles timer i e u) ∧
      ∀ e l, a.point = .settled e l →
        ∃ v w left, Makes timer s moves (.act i .start) v ∧
          Makes timer s moves (.act i .measure) w ∧
          left = Allowance.remaining a.budget (w.now.since v.now) ∧
          entriesOf i (ledger timer moves s) = [left] ∧
          (∀ c, a.result? = some (.ok c) ↔ e = .answered (.ok c) ∧ 0 < left.nanos) ∧
          (∀ f, a.result? = some (.error (.refused f)) ↔ e = .answered (.error f)) ∧
          ∀ d, a.result? = some (.error (.timedOut d)) ↔
            d = a.budget ∧ (e = .elapsed ∨ (∃ c, e = .answered (.ok c)) ∧ left.nanos ≤ 0) := by
  have hbalanced := balanced_run hs hu
  refine ⟨allowance_run hu, fun i left hl => hbalanced.entriesOf_of_mem hl, fun i a ha => ?_⟩
  have haccount := hbalanced.made i a ha
  refine ⟨haccount.called, haccount.length_le, fun he => ?_, fun e he => ?_, fun e l hp => ?_⟩
  · obtain ⟨hrecord, hresult⟩ := Attempt.record?_of_exit? he
    exact ⟨by rw [haccount.entries, hrecord, Option.toList_none], hresult⟩
  · exact ⟨haccount.exit e he, settles_of_exit? haccount.sound ha he⟩
  · obtain ⟨v, w, left, hv, hw, hleft, rfl, hentries⟩ := haccount.settled hp
    exact ⟨v, w, left, hv, hw, hleft, hentries, fun c => Attempt.result?_eq_ok_iff hp,
      fun f => Attempt.result?_eq_refused_iff hp, fun d => Attempt.result?_eq_timedOut_iff hp⟩

/-- A timer that goes off exactly when it is due, or in thirty years where the clock cannot tell
when that is. -/
def exactTimer (t : Instant) (d : Span) : Instant :=
  (t.add? d).getD ⟨t.nanos + 946080000000000000⟩

/-- Four dials with an answer, a timeout, a drop before the first poll, and a refusal. The first of
them has read its budget before it is set to half of that, and writes after the third. -/
def overlapping : List (Move Nat Nat) :=
  [.call, .act 0 .start, .act 0 (.poll none false), .wait (Span.ofMillis 1),
    .setBudget (Span.ofMillis 5),
    .call, .act 1 .start, .act 1 (.poll none false), .call, .act 2 .start, .wait (Span.ofMillis 2),
    .act 0 (.poll (some (.ok 4)) false), .act 2 .drop, .act 0 .measure,
    .act 2 .release, .act 2 .measure, .act 2 .store, .act 2 .release,
    .act 0 .store, .act 0 .release, .wait (Span.ofMillis 3),
    .call, .act 1 (.poll none true), .act 1 .measure, .act 3 .start, .act 1 .store, .act 1 .release,
    .act 3 (.poll (some (.error 7)) true), .act 3 .measure, .act 3 .store, .act 3 .release]

def tenMillis : Dialling Nat Nat :=
  new Instant.origin (Span.ofMillis 10) (Allowance.ofSpan (Span.ofMillis 10))

theorem dials_accounted_overlapping : ∃ u, run exactTimer overlapping tenMillis = some u ∧
    u.allowance = ⟨5000000⟩ ∧
    (∀ i a, u.attempts[i]? = some a →
      (entriesOf i (ledger exactTimer overlapping tenMillis)).length ≤ 1) ∧
    ledger exactTimer overlapping tenMillis =
      [⟨some 2, ⟨3000000⟩⟩, ⟨some 0, ⟨7000000⟩⟩, ⟨some 1, ⟨0⟩⟩, ⟨some 3, ⟨5000000⟩⟩] ∧
    u.attempts.map (·.result?) = [some (.ok 4), some (.error (.timedOut (Span.ofMillis 5))), none,
      some (.error (.refused 7))] := by
  obtain ⟨u, hu⟩ : ∃ u, run exactTimer overlapping tenMillis = some u := ⟨_, rfl⟩
  have hresults : (run exactTimer overlapping tenMillis).map (·.attempts.map (·.result?)) =
    some [some (.ok 4), some (.error (.timedOut (Span.ofMillis 5))), none,
      some (.error (.refused 7))] := rfl
  rw [hu] at hresults
  obtain ⟨hcell, -, hdials⟩ := dials_accounted rfl hu
  exact ⟨u, hu, hcell.trans rfl, fun i a ha => (hdials i a ha).2.1, rfl, Option.some.inj hresults⟩

end LiveTree.Dialling
