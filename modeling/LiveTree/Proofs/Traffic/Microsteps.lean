import LiveTree.Proofs.Traffic.Accounting
import LiveTree.Proofs.Traffic.Limits

namespace LiveTree

open Dialling (Act Attempt)

variable {timer : Instant → Span → Instant}

def DialResult.outcome? : DialResult → Option (Except (DialFault Unit) Unit)
  | .connected => some (.ok ())
  | .refused => some (.error (.refused ()))
  | .timedOut budget => some (.error (.timedOut budget))
  | .nothing => none

def IsExact (timer : Instant → Span → Instant) : Prop :=
  ∀ t d u, t.add? d = some u → timer t d = u

theorem isExact_exactTimer : IsExact Dialling.exactTimer := by
  intro t d u hu
  rw [Dialling.exactTimer, hu, Option.getD_some]

namespace Dial

variable {d : Dial} {now : Instant} {ending : DialEnding}

def attempt (timer : Instant → Span → Instant) (d : Dial) : Attempt Unit Unit :=
  ⟨d.budget, d.started, false, .waiting (timer d.started d.budget)⟩

inductive IsSame (timer : Instant → Span → Instant) (d : Dial) (a : Attempt Unit Unit) : Prop
  | underway (hd : d.ended = none) (ha : a = d.attempt timer)
  | ended (result : DialResult) (left : Allowance) (e : Dialling.Exit Unit Unit)
      (hd : d.ended = some (result, left)) (hb : a.budget = d.budget)
      (hp : a.point = .settled e (some left)) (hr : a.result? = result.outcome?)

theorem timer_le (hx : IsExact timer) (hnow : now.nanos < Instant.limit)
    (hd : d.started.nanos ≤ now.nanos) (hb : d.budget.nanos ≤ (d.elapsed now).nanos) :
    (timer d.started d.budget).nanos ≤ now.nanos := by
  have helapsed : (d.elapsed now).nanos ≤ (now.nanos - d.started.nanos).toNat := by
    rw [elapsed, Instant.since, Span.ofNanos]
    split
    · exact Nat.le_refl _
    · next hover => exact Nat.le_trans (Nat.sub_le ..) (Nat.not_lt.1 hover)
  have hsum : d.started.nanos + d.budget.nanos ≤ now.nanos := by omega
  have hadd : d.started.add? d.budget = some ⟨d.started.nanos + d.budget.nanos⟩ :=
    if_pos (Int.lt_of_le_of_lt hsum hnow)
  rw [hx _ _ _ hadd]
  exact hsum

theorem exists_fires (hx : IsExact timer) (hnow : now.nanos < Instant.limit)
    (hd : d.started.nanos ≤ now.nanos) (hend : d.canEnd now ending = true) (left : Allowance) :
    ∃ acts b, (d.attempt timer).fires timer now acts left = some (b, d.remaining now) ∧
      (d.finish now ending).IsSame timer b := by
  cases ending with
  | connected =>
      refine ⟨[.poll (some (.ok ())) false, .measure, .store, .release], _, rfl, ?_⟩
      refine .ended _ _ _ rfl rfl rfl ?_
      by_cases hs : (d.remaining now).isSpent = true
      · rw [result, if_pos hs]
        exact congrArg some (if_pos hs)
      · rw [result, if_neg hs]
        exact congrArg some (if_neg hs)
  | refused =>
      exact ⟨[.poll (some (.error ())) false, .measure, .store, .release], _, rfl,
        .ended _ _ _ rfl rfl rfl rfl⟩
  | timedOut =>
      have hb : d.budget.nanos ≤ (d.elapsed now).nanos := by
        simpa [canEnd] using ((Bool.and_eq_true ..).mp hend).2
      have hpoll : (d.attempt timer).fire timer now (.poll none true) =
          some { d.attempt timer with point := .measuring .elapsed } :=
        if_pos (timer_le hx hnow hd hb)
      refine ⟨[.poll none true, .measure, .store, .release],
        ⟨d.budget, d.started, true, .settled .elapsed (some (d.remaining now))⟩, ?_, ?_⟩
      · rw [Attempt.fires, hpoll]
        rfl
      · exact .ended _ _ _ rfl rfl rfl rfl
  | abandoned =>
      exact ⟨[.drop, .release, .measure, .store, .release], _, rfl, .ended _ _ _ rfl rfl rfl rfl⟩

end Dial

namespace Traffic

variable {t u : Traffic} {s v : Dialling Unit Unit} {m : Move} {moves : List Move}

def Timely (t : Traffic) : Prop :=
  t.now.nanos < Instant.limit ∧ ∀ d ∈ t.dials, d.started.nanos ≤ t.now.nanos

structure IsSame (timer : Instant → Span → Instant) (t : Traffic) (s : Dialling Unit Unit) :
    Prop where
  now : s.now = t.now
  budget : s.budget = t.budget
  allowance : s.allowance = t.allowance
  dials : List.Forall₂ (Dial.IsSame timer) t.dials s.attempts

theorem timely_new (budget : Span) : (new budget).Timely :=
  ⟨show (0 : Int) < Instant.limit by decide, nofun⟩

theorem Timely.fire (ht : t.Timely) (hm : fire m t = some u) : u.Timely := by
  obtain ⟨hnow, hdials⟩ := ht
  cases m with
  | wait d =>
      obtain ⟨now, hadd, rfl⟩ := wait?_eq_some hm
      have hsum := Instant.nanos_of_add? hadd
      refine ⟨?_, fun e he => ?_⟩
      · have hlt : ¬ Instant.limit ≤ t.now.nanos + d.nanos := fun hle => by
          rw [(Instant.add?_eq_none_iff ..).2 hle] at hadd
          cases hadd
        exact hsum ▸ Int.not_le.1 hlt
      · have hstarted := hdials e he
        simp only at hsum ⊢
        omega
  | setBudget | setAllowance =>
      obtain rfl := Option.some.inj hm
      exact ⟨hnow, hdials⟩
  | issue =>
      obtain ⟨deadline, -, rfl⟩ := issue?_eq_some hm
      exact ⟨hnow, hdials⟩
  | dial n =>
      obtain ⟨-, rfl⟩ := dial?_eq_some hm
      refine ⟨hnow, fun e he => ?_⟩
      obtain he | he := List.mem_append.1 he
      · exact hdials e he
      · obtain rfl := List.mem_singleton.1 he
        exact Int.le_refl _
  | finish i ending =>
      obtain ⟨d, hd, -, rfl⟩ := finish?_eq_some hm
      refine ⟨hnow, fun e he => ?_⟩
      obtain he | rfl := List.mem_or_eq_of_mem_set he
      · exact hdials e he
      · exact hdials d (List.mem_of_getElem? hd)

theorem IsSame.fire (h : t.IsSame timer s) (hx : IsExact timer) (ht : t.Timely)
    (hm : fire m t = some u) :
    ∃ steps v, Dialling.run timer steps s = some v ∧ u.IsSame timer v := by
  obtain ⟨now, budget, allowance, attempts⟩ := s
  obtain ⟨rfl, rfl, rfl, hdials⟩ := h
  cases m with
  | wait d =>
      obtain ⟨now, hadd, rfl⟩ := wait?_eq_some hm
      refine ⟨[.wait d], ⟨now, t.budget, t.allowance, attempts⟩, ?_, rfl, rfl, rfl, hdials⟩
      simp [Dialling.run, Dialling.fire, hadd]
  | setBudget d =>
      obtain rfl := Option.some.inj hm
      exact ⟨[.setBudget d], _, rfl, rfl, rfl, rfl, hdials⟩
  | setAllowance a =>
      obtain rfl := Option.some.inj hm
      exact ⟨[.setAllowance a], _, rfl, rfl, rfl, rfl, hdials⟩
  | issue =>
      obtain ⟨deadline, -, rfl⟩ := issue?_eq_some hm
      exact ⟨[], _, rfl, rfl, rfl, rfl, hdials⟩
  | dial n =>
      obtain ⟨-, rfl⟩ := dial?_eq_some hm
      let begun : Dial := ⟨n, t.budget, t.now, none⟩
      let called : Dialling Unit Unit := ⟨t.now, t.budget, t.allowance,
        attempts ++ [⟨t.budget, t.now, false, .called⟩]⟩
      have hself : called.attempts[attempts.length]? = some ⟨t.budget, t.now, false, .called⟩ :=
        List.getElem?_concat_length ..
      have hacts : Dialling.run timer
          ([Act.start, .poll none false].map (.act attempts.length)) called = some ⟨t.now, t.budget,
            t.allowance, called.attempts.set attempts.length (begun.attempt timer)⟩ :=
        Dialling.run_acts hself rfl
      refine ⟨.call :: [Act.start, .poll none false].map (.act attempts.length), _,
        hacts, rfl, rfl, rfl, ?_⟩
      have hset : called.attempts.set attempts.length (begun.attempt timer) =
          attempts ++ [begun.attempt timer] := by simp [called]
      rw [hset]
      exact List.rel_append hdials (.cons (.underway rfl rfl) .nil)
  | finish i ending =>
      obtain ⟨d, hd, hend, rfl⟩ := finish?_eq_some hm
      obtain ⟨a, ha, hsame⟩ := exists_of_forall₂ hdials hd
      obtain ⟨hopen, -⟩ := (Bool.and_eq_true ..).mp hend
      cases hsame with
      | ended result left e hended => simp [hended] at hopen
      | underway =>
          subst a
          obtain ⟨acts, b, hb, hsame⟩ := Dial.exists_fires hx ht.1
            (ht.2 d (List.mem_of_getElem? hd)) hend t.allowance
          exact ⟨_, _, Dialling.run_acts ha hb, rfl, rfl, rfl,
            forall₂_set hdials hd ha fun _ => hsame⟩

theorem IsSame.run (h : t.IsSame timer s) (hx : IsExact timer) (ht : t.Timely)
    (hu : run moves t = some u) :
    ∃ steps v, Dialling.run timer steps s = some v ∧ u.IsSame timer v := by
  induction moves generalizing t s with
  | nil => exact ⟨[], s, rfl, Option.some.inj hu ▸ h⟩
  | cons m moves ih =>
      obtain ⟨w, hw, hu⟩ := run_cons.1 hu
      obtain ⟨first, x, hx', hsame⟩ := h.fire hx ht hw
      obtain ⟨rest, v, hv, hlast⟩ := ih hsame (ht.fire hw) hu
      refine ⟨first ++ rest, v, ?_, hlast⟩
      rw [Dialling.run_append, hx', Option.bind_eq_bind, Option.bind_some, hv]

theorem exists_steps (hx : IsExact timer) {budget : Span} (hu : run moves (new budget) = some u) :
    ∃ steps v, Dialling.run timer steps
      (Dialling.new Instant.origin budget (Allowance.ofSpan budget)) = some v ∧
        u.IsSame timer v :=
  IsSame.run ⟨rfl, rfl, rfl, .nil⟩ hx (timely_new budget) hu

end Traffic

end LiveTree
