import LiveTree.Span

namespace LiveTree

def mostNanos : Int := 0x7FFFFFFFFFFFFFFF

def leastNanos : Int := -0x8000000000000000

structure Allowance where
  nanos : Int
  deriving DecidableEq, Repr

namespace Allowance

def zero : Allowance :=
  ⟨0⟩

def countOf (d : Span) : Int :=
  if (d.nanos : Int) ≤ mostNanos then d.nanos else mostNanos

def difference (a b : Int) : Int :=
  if a - b < leastNanos then leastNanos
  else if mostNanos < a - b then mostNanos
  else a - b

def ofSpan (d : Span) : Allowance :=
  ⟨countOf d⟩

def remaining (budget elapsed : Span) : Allowance :=
  ⟨difference (countOf budget) (countOf elapsed)⟩

def isSpent (a : Allowance) : Bool :=
  a.nanos ≤ 0

def toSpan? (a : Allowance) : Option Span :=
  if 0 < a.nanos then some (Span.ofNanos a.nanos.toNat) else none

def toText (a : Allowance) : String :=
  if a.nanos < 0 then "-" ++ Span.text a.nanos.natAbs else Span.text a.nanos.natAbs

def order (a b : Allowance) : Ordering :=
  compare a.nanos b.nanos

def sort (as : List Allowance) : List Allowance :=
  as.mergeSort fun a b => a.nanos ≤ b.nanos

theorem toSpan?_eq_none_iff (a : Allowance) : a.toSpan? = none ↔ a.isSpent = true := by
  simp only [toSpan?, isSpent, decide_eq_true_eq]
  split <;> simp <;> omega

end Allowance

end LiveTree
