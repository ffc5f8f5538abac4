import LiveTree.Allowance

namespace LiveTree.Allowance

theorem countOf_eq_min (d : Span) : countOf d = min (d.nanos : Int) mostNanos := by
  rw [countOf]
  split <;> omega

theorem countOf_nonneg (d : Span) : 0 ≤ countOf d := by
  rw [countOf_eq_min, mostNanos]
  omega

theorem countOf_le (d : Span) : countOf d ≤ mostNanos := by
  rw [countOf_eq_min]
  exact Int.min_le_right _ _

theorem countOf_mono {d e : Span} (h : d.nanos ≤ e.nanos) : countOf d ≤ countOf e := by
  rw [countOf_eq_min, countOf_eq_min]
  omega

theorem sub_countOf_bounds (budget elapsed : Span) :
    leastNanos ≤ countOf budget - countOf elapsed ∧
      countOf budget - countOf elapsed ≤ mostNanos := by
  have hbudget := countOf_nonneg budget
  have helapsed := countOf_nonneg elapsed
  have hbudget' := countOf_le budget
  have helapsed' := countOf_le elapsed
  simp only [leastNanos, mostNanos] at *
  omega

theorem nanos_remaining (budget elapsed : Span) :
    (remaining budget elapsed).nanos = countOf budget - countOf elapsed := by
  obtain ⟨hleast, hmost⟩ := sub_countOf_bounds budget elapsed
  rw [remaining, difference, if_neg (Int.not_lt.2 hleast), if_neg (Int.not_lt.2 hmost)]

theorem isSpent_remaining_iff {budget elapsed : Span} (h : (elapsed.nanos : Int) < mostNanos) :
    (remaining budget elapsed).isSpent = true ↔ budget.nanos ≤ elapsed.nanos := by
  rw [isSpent, decide_eq_true_iff, nanos_remaining, countOf_eq_min, countOf_eq_min]
  omega

theorem exists_toSpan?_remaining {budget elapsed : Span} (h : (budget.nanos : Int) ≤ mostNanos)
    (hs : (remaining budget elapsed).isSpent = false) : ∃ left,
    (remaining budget elapsed).toSpan? = some left ∧ left.nanos + elapsed.nanos = budget.nanos := by
  have hpos : 0 < (remaining budget elapsed).nanos := by simpa [isSpent] using hs
  have hleft : (remaining budget elapsed).nanos = budget.nanos - elapsed.nanos := by
    rw [nanos_remaining, countOf_eq_min, countOf_eq_min] at hpos ⊢
    omega
  refine ⟨_, if_pos hpos, ?_⟩
  have hlimit := budget.lt_limit
  rw [Span.nanos_ofNanos] <;> omega

theorem isLE_order_iff (a b : Allowance) : (order a b).isLE = true ↔ a.nanos ≤ b.nanos :=
  Std.isLE_compare

theorem remaining_zero (budget : Span) : remaining budget Span.zero = ofSpan budget := by
  have hzero : countOf Span.zero = 0 := rfl
  have hnanos := nanos_remaining budget Span.zero
  rw [hzero, Int.sub_zero] at hnanos
  exact congrArg Allowance.mk hnanos

/-- What is left of a budget is the difference of the two counts, which no cut changes. It is spent
exactly if the time taken reaches the budget, and otherwise, as a span, all that is left. It grows
with the budget and falls with the time taken. -/
theorem remaining_exact (budget elapsed : Span) :
    (remaining budget elapsed).nanos =
        min (budget.nanos : Int) mostNanos - min (elapsed.nanos : Int) mostNanos ∧
      leastNanos ≤ min (budget.nanos : Int) mostNanos - min (elapsed.nanos : Int) mostNanos ∧
      min (budget.nanos : Int) mostNanos - min (elapsed.nanos : Int) mostNanos ≤ mostNanos ∧
      ((elapsed.nanos : Int) < mostNanos →
        ((remaining budget elapsed).isSpent = true ↔ budget.nanos ≤ elapsed.nanos)) ∧
      ((remaining budget elapsed).toSpan? = none ↔ (remaining budget elapsed).isSpent = true) ∧
      ((budget.nanos : Int) ≤ mostNanos → (remaining budget elapsed).isSpent = false →
        ∃ left, (remaining budget elapsed).toSpan? = some left ∧
          left.nanos + elapsed.nanos = budget.nanos) ∧
      (∀ larger : Span, budget.nanos ≤ larger.nanos →
        (order (remaining budget elapsed) (remaining larger elapsed)).isLE = true) ∧
      (∀ longer : Span, elapsed.nanos ≤ longer.nanos →
        (order (remaining budget longer) (remaining budget elapsed)).isLE = true) ∧
      remaining budget Span.zero = ofSpan budget := by
  obtain ⟨hleast, hmost⟩ := sub_countOf_bounds budget elapsed
  have hnanos := nanos_remaining budget elapsed
  rw [countOf_eq_min, countOf_eq_min] at hleast hmost hnanos
  refine ⟨hnanos, hleast, hmost, isSpent_remaining_iff, toSpan?_eq_none_iff _,
    exists_toSpan?_remaining, fun larger h => ?_, fun longer h => ?_, remaining_zero budget⟩
  · rw [isLE_order_iff, nanos_remaining, nanos_remaining]
    exact Int.sub_le_sub_right (countOf_mono h) _
  · rw [isLE_order_iff, nanos_remaining, nanos_remaining]
    exact Int.sub_le_sub_left (countOf_mono h) _

/-- Of ten milliseconds three are taken; the longest span is cut off on either side. -/
theorem remaining_exact_millis :
    let budget := Span.ofMillis 10
    let elapsed := Span.ofMillis 3
    (elapsed.nanos : Int) < mostNanos ∧ (remaining budget elapsed).isSpent = false ∧
      (∃ left, (remaining budget elapsed).toSpan? = some left ∧
        left.nanos + elapsed.nanos = budget.nanos) ∧
      (order (remaining budget elapsed) (remaining Span.longest elapsed)).isLE = true ∧
      (order (remaining budget Span.longest) (remaining budget elapsed)).isLE = true := by
  intro budget elapsed
  obtain ⟨-, -, -, hspent, -, hleft, hlarger, hlonger, -⟩ := remaining_exact budget elapsed
  have helapsed : (elapsed.nanos : Int) < mostNanos := by decide
  have hnot : (remaining budget elapsed).isSpent = false :=
    Bool.eq_false_iff.2 fun h => absurd ((hspent helapsed).1 h) (by decide)
  exact ⟨helapsed, hnot, hleft (by decide) hnot, hlarger _ (by decide), hlonger _ (by decide)⟩

end LiveTree.Allowance
