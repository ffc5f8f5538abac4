import LiveTree.Allowance
import LiveTree.Clock

namespace LiveTree

inductive DialFault (ε : Type) where
  | refused (e : ε)
  | timedOut (budget : Span)
  deriving DecidableEq

namespace Dialling

inductive Exit (κ ε : Type) where
  | answered (r : Except ε κ)
  | elapsed
  | dropped

/-- Where a dial stands. Its budget is read first, and then its clock starts; the timer is set when
the dial is polled for the first time. Behind the exit the guard measures what is left, stores it,
and is released. -/
inductive Point (κ ε : Type) where
  | called
  | unpolled
  | waiting (deadline : Instant)
  | measuring (e : Exit κ ε)
  | storing (e : Exit κ ε) (left : Allowance)
  | releasing (e : Exit κ ε) (left : Option Allowance)
  | settled (e : Exit κ ε) (left : Option Allowance)

structure Attempt (κ ε : Type) where
  budget : Span
  started : Instant
  recorded : Bool
  point : Point κ ε

/-- The steps of a dial. A poll finds the answer of the connection, if there is one, and whether the
timer has gone off. -/
inductive Act (κ ε : Type) where
  | start
  | poll (answer : Option (Except ε κ)) (fired : Bool)
  | drop
  | measure
  | store
  | release

variable {κ ε : Type}

namespace Attempt

/-- One poll. An answer goes before the timer, which goes off at its deadline at the earliest. -/
def poll? (a : Attempt κ ε) (now deadline : Instant) (answer : Option (Except ε κ)) (fired : Bool) :
    Option (Attempt κ ε) :=
  match answer with
  | some r => some { a with point := .measuring (.answered r) }
  | none =>
      if !fired then some { a with point := .waiting deadline }
      else if deadline.nanos ≤ now.nanos then some { a with point := .measuring .elapsed }
      else none

/-- One step of a dial. `timer` tells the deadline of a timer that is set at some time for so
long. -/
def fire (timer : Instant → Span → Instant) (now : Instant) (a : Attempt κ ε) :
    Act κ ε → Option (Attempt κ ε)
  | .start =>
      match a.point with
      | .called => some { a with started := now, point := .unpolled }
      | _ => none
  | .poll answer fired =>
      match a.point with
      | .unpolled => a.poll? now (timer now a.budget) answer fired
      | .waiting deadline => a.poll? now deadline answer fired
      | _ => none
  | .drop =>
      match a.point with
      | .unpolled | .waiting _ => some { a with point := .releasing .dropped none }
      | _ => none
  | .measure =>
      match a.point with
      | .measuring e =>
          let left := Allowance.remaining a.budget (now.since a.started)
          some { a with point := .storing e left }
      | _ => none
  | .store =>
      match a.point with
      | .storing e left => some { a with recorded := true, point := .releasing e (some left) }
      | _ => none
  | .release =>
      match a.point with
      | .releasing e left =>
          some { a with point := if a.recorded then .settled e left else .measuring e }
      | _ => none

def stored? (a : Attempt κ ε) : Act κ ε → Option Allowance
  | .store =>
      match a.point with
      | .storing _ left => some left
      | _ => none
  | _ => none

/-- What a dial comes to. A connection that leaves nothing of the budget comes too late. -/
def result? (a : Attempt κ ε) : Option (Except (DialFault ε) κ) :=
  match a.point with
  | .settled (.answered (.ok c)) (some left) =>
      some (if left.isSpent then .error (.timedOut a.budget) else .ok c)
  | .settled (.answered (.error e)) _ => some (.error (.refused e))
  | .settled .elapsed _ => some (.error (.timedOut a.budget))
  | _ => none

end Attempt

/-- A change of what the dials share, or a step of the dial of some number. -/
inductive Move (κ ε : Type) where
  | wait (d : Span)
  | setBudget (d : Span)
  | setAllowance (a : Allowance)
  | call
  | act (number : Nat) (act : Act κ ε)

end Dialling

open Dialling (Attempt Move)

structure Dialling (κ ε : Type) where
  now : Instant
  budget : Span
  allowance : Allowance
  attempts : List (Attempt κ ε)

namespace Dialling

variable {κ ε : Type}

def new (now : Instant) (budget : Span) (allowance : Allowance) : Dialling κ ε :=
  ⟨now, budget, allowance, []⟩

def act? (timer : Instant → Span → Instant) (s : Dialling κ ε) (number : Nat) (act : Act κ ε) :
    Option (Dialling κ ε) :=
  match s.attempts[number]? with
  | none => none
  | some a =>
      (a.fire timer s.now act).map fun b =>
        { s with
          allowance := (a.stored? act).getD s.allowance
          attempts := s.attempts.set number b }

def fire (timer : Instant → Span → Instant) (s : Dialling κ ε) : Move κ ε → Option (Dialling κ ε)
  | .wait d => (s.now.add? d).map fun now => { s with now }
  | .setBudget d => some { s with budget := d }
  | .setAllowance a => some { s with allowance := a }
  | .call => some { s with attempts := s.attempts ++ [⟨s.budget, s.now, false, .called⟩] }
  | .act number act => s.act? timer number act

def run (timer : Instant → Span → Instant) : List (Move κ ε) → Dialling κ ε → Option (Dialling κ ε)
  | [], s => some s
  | m :: moves, s => s.fire timer m >>= run timer moves

end Dialling

end LiveTree
