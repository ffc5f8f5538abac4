import LiveTree.Span

namespace LiveTree

structure BudgetBook where
  cells : List Span
  holders : List Nat

namespace BudgetBook

def empty : BudgetBook :=
  ⟨[], []⟩

def cellOf? (b : BudgetBook) (holder : Nat) : Option Nat :=
  b.holders[holder]?

def get? (b : BudgetBook) (holder : Nat) : Option Span :=
  b.cellOf? holder >>= fun cell => b.cells[cell]?

def openCell (b : BudgetBook) (d : Span) : BudgetBook :=
  ⟨b.cells ++ [d], b.holders ++ [b.cells.length]⟩

def share (b : BudgetBook) (holder : Nat) : BudgetBook :=
  match b.cellOf? holder with
  | some cell => ⟨b.cells, b.holders ++ [cell]⟩
  | none => b

def set (b : BudgetBook) (holder : Nat) (d : Span) : BudgetBook :=
  match b.cellOf? holder with
  | some cell => ⟨b.cells.set cell d, b.holders⟩
  | none => b

def toList (b : BudgetBook) : List Span :=
  (List.range b.holders.length).filterMap b.get?

/-- Setting a budget is seen by the holders of that cell, and by no other. -/
theorem get?_set (b : BudgetBook) {holder other cell : Nat} (h : b.cellOf? holder = some cell)
    (d : Span) :
    (b.set holder d).get? other =
      if b.cellOf? other = some cell then (b.get? other).map fun _ => d else b.get? other := by
  have hs : b.set holder d = ⟨b.cells.set cell d, b.holders⟩ := by rw [set, h]
  by_cases ho : b.holders[other]? = some cell
  · by_cases hl : cell < b.cells.length <;> simp [hs, get?, cellOf?, ho, hl]
  · cases hc : b.holders[other]? with
    | none => simp [hs, get?, cellOf?, hc]
    | some c =>
        have hn : cell ≠ c := fun he => ho (he ▸ hc)
        simp [hs, get?, cellOf?, hc, hn, Ne.symm hn]

end BudgetBook

end LiveTree
