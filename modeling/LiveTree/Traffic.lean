import LiveTree.Allowance
import LiveTree.Clock

namespace LiveTree

/-- How a dial ends: by itself, because its time is up, or because nobody waits for it any more. -/
inductive DialEnding where
  | connected
  | refused
  | timedOut
  | abandoned
  deriving DecidableEq, Repr

inductive DialResult where
  | connected
  | refused
  | timedOut (budget : Span)
  | nothing
  deriving DecidableEq

/-- A dial, and, once it has ended, what it came to and the allowance it wrote down. -/
structure Dial where
  request : Nat
  budget : Span
  started : Instant
  ended : Option (DialResult × Allowance)
  deriving DecidableEq

namespace Dial

def elapsed (d : Dial) (now : Instant) : Span :=
  now.since d.started

def remaining (d : Dial) (now : Instant) : Allowance :=
  Allowance.remaining d.budget (d.elapsed now)

def result (d : Dial) (now : Instant) : DialEnding → DialResult
  | .connected => if (d.remaining now).isSpent then .timedOut d.budget else .connected
  | .refused => .refused
  | .timedOut => .timedOut d.budget
  | .abandoned => .nothing

/-- A dial still under way can end in any way, but its time is up only after its budget. -/
def canEnd (d : Dial) (now : Instant) (e : DialEnding) : Bool :=
  d.ended.isNone && (e ≠ .timedOut || d.budget.nanos ≤ (d.elapsed now).nanos)

def finish (d : Dial) (now : Instant) (e : DialEnding) : Dial :=
  { d with ended := some (d.result now e, d.remaining now) }

end Dial

/-- The clock, the budget and the allowance that all requests share, the deadline of each request
issued so far, and the dials. -/
structure Traffic where
  now : Instant
  budget : Span
  allowance : Allowance
  deadlines : List Instant
  dials : List Dial

namespace Traffic

def new (budget : Span) : Traffic :=
  ⟨Instant.origin, budget, Allowance.ofSpan budget, [], []⟩

inductive Move where
  | wait (d : Span)
  | setBudget (d : Span)
  | setAllowance (a : Allowance)
  | issue
  | dial (request : Nat)
  | finish (dial : Nat) (ending : DialEnding)

def setBudget (t : Traffic) (d : Span) : Traffic :=
  { t with budget := d }

def setAllowance (t : Traffic) (a : Allowance) : Traffic :=
  { t with allowance := a }

def wait? (t : Traffic) (d : Span) : Option Traffic :=
  (t.now.add? d).map fun now => { t with now }

def issue? (t : Traffic) : Option Traffic :=
  (t.now.add? t.budget).map fun deadline => { t with deadlines := t.deadlines ++ [deadline] }

def dial? (t : Traffic) (request : Nat) : Option Traffic :=
  if request < t.deadlines.length then
    some { t with dials := t.dials ++ [⟨request, t.budget, t.now, none⟩] }
  else none

def finish? (t : Traffic) (dial : Nat) (e : DialEnding) : Option Traffic :=
  match t.dials[dial]? with
  | none => none
  | some d =>
      if d.canEnd t.now e then
        some { t with
          allowance := d.remaining t.now
          dials := t.dials.set dial (d.finish t.now e) }
      else none

def fire : Move → Traffic → Option Traffic
  | .wait d, t => t.wait? d
  | .setBudget d, t => some (t.setBudget d)
  | .setAllowance a, t => some (t.setAllowance a)
  | .issue, t => t.issue?
  | .dial request, t => t.dial? request
  | .finish dial e, t => t.finish? dial e

def run : List Move → Traffic → Option Traffic
  | [], t => some t
  | m :: moves, t => fire m t >>= run moves

theorem run_append (before after : List Move) (t : Traffic) :
    run (before ++ after) t = run before t >>= run after := by
  induction before generalizing t with
  | nil => rfl
  | cons m moves ih =>
      simp only [List.cons_append, run]
      cases fire m t with
      | none => rfl
      | some u => exact ih u

end Traffic

end LiveTree
