import LiveTree.Watch.Call

namespace LiveTree.Watch

/-- The controller, the calls to watch and to stop made so far, the watches that have been
cancelled, and whether the handle is gone. -/
structure System where
  controller : Controller
  calls : List Call
  stops : List StopPoint
  cancelled : List Nat
  released : Bool

inductive Move where
  | openCall (capacity : Option Nat) (replicating : Bool)
  | call (number : Nat) (m : CallMove)
  | openStop
  | stop (number : Nat) (m : StopMove)
  | release

namespace System

def new : System :=
  ⟨Controller.new, [], [], [], false⟩

def isCancelled (s : System) (number : Nat) : Bool :=
  s.cancelled.contains number

def hasEnded (s : System) (number : Nat) : Bool :=
  (s.calls[number]?).any Call.hasEndedPump

def isBusy (s : System) : Bool :=
  s.calls.any Call.isPending || s.stops.any StopPoint.isPending

def openCall? (s : System) (capacity : Option Nat) (replicating : Bool) : Option System :=
  if s.released then none
  else some { s with calls := s.calls ++ [Call.new capacity replicating] }

def openStop? (s : System) : Option System :=
  if s.released then none else some { s with stops := s.stops ++ [.entering] }

def fireCall? (s : System) (number : Nat) (m : CallMove) : Option System :=
  match s.calls[number]? with
  | none => none
  | some c =>
      (m.fire number (s.isCancelled number) s.controller c).map fun (controller, c) =>
        { s with controller, calls := s.calls.set number c }

def fireStop? (s : System) (number : Nat) (m : StopMove) : Option System :=
  match s.stops[number]? with
  | none => none
  | some p =>
      (m.fire s.hasEnded s.controller p).map fun (controller, cancelled, p) =>
        { s with
          controller
          stops := s.stops.set number p
          cancelled := cancelled.toList ++ s.cancelled }

def release? (s : System) : Option System :=
  if s.released || s.isBusy then none
  else
    let (cancelled, controller) := s.controller.release
    some { s with controller, cancelled := cancelled.toList ++ s.cancelled, released := true }

def fire (s : System) : Move → Option System
  | .openCall capacity replicating => s.openCall? capacity replicating
  | .call number m => s.fireCall? number m
  | .openStop => s.openStop?
  | .stop number m => s.fireStop? number m
  | .release => s.release?

def run (s : System) : List Move → Option System
  | [] => some s
  | m :: moves =>
      match s.fire m with
      | none => none
      | some s => s.run moves

def Reachable (s : System) : Prop :=
  ∃ moves, new.run moves = some s

theorem run_append (s : System) (before after : List Move) :
    s.run (before ++ after) = s.run before >>= fun t => t.run after := by
  induction before generalizing s with
  | nil => rfl
  | cons m moves ih =>
      simp only [List.cons_append, run]
      split
      · rfl
      · exact ih _

theorem reachable_new : Reachable new :=
  ⟨[], rfl⟩

theorem Reachable.fire {s t : System} (h : s.Reachable) {m : Move} (hm : s.fire m = some t) :
    t.Reachable := by
  obtain ⟨moves, hr⟩ := h
  exact ⟨moves ++ [m], by simp [run_append, hr, run, hm]⟩

/-- What holds of a new handle, and is kept by every step, holds of every reachable state. -/
theorem Reachable.induction {P : System → Prop} (hn : P new)
    (hs : ∀ s t m, P s → s.fire m = some t → P t) {s : System} (h : s.Reachable) : P s := by
  obtain ⟨moves, hr⟩ := h
  suffices hk : ∀ s t, P s → s.run moves = some t → P t from hk _ _ hn hr
  clear hr
  induction moves with
  | nil => intro s t hp hr; simp_all [run]
  | cons m moves ih =>
      intro s t hp hr
      simp only [run] at hr
      split at hr
      · simp at hr
      · next u hu => exact ih u t (hs s u m hp hu) hr

def phase (s : System) : Phase :=
  s.controller.phase

end System

end LiveTree.Watch
