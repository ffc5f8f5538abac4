namespace LiveTree.Watch

inductive Phase where
  | idle
  | starting
  | streaming
  | stopping
  | failed
  deriving DecidableEq, Repr

def Phase.name : Phase → String
  | .idle => "Idle"
  | .starting => "Starting"
  | .streaming => "Streaming"
  | .stopping => "Stopping"
  | .failed => "Failed"

abbrev Join := Option Nat

/-- The watch that can be cancelled, the pump that runs, and the join of the pump that is being
stopped, which all stops share. -/
structure Controller where
  phase : Phase
  generation : Nat
  cancel : Option Nat
  worker : Option Nat
  stopping : Option Join
  deriving DecidableEq, Repr

namespace Controller

def new : Controller :=
  ⟨.idle, 0, none, none, none⟩

def reset (c : Controller) : Controller :=
  { c with phase := .idle, cancel := none, worker := none, stopping := none }

def isWatching (c : Controller) : Bool :=
  c.phase = .starting || c.phase = .streaming

def begin? (c : Controller) (call : Nat) : Option Controller :=
  if c.phase = .idle then
    some { c with phase := .starting, generation := c.generation + 1, cancel := some call }
  else none

def establish? (c : Controller) (generation call : Nat) : Option Controller :=
  if c.generation = generation ∧ c.phase = .starting then
    some { c with phase := .streaming, worker := some call }
  else none

def settle (c : Controller) (generation : Nat) : Controller :=
  if c.generation = generation then
    match c.phase with
    | .starting | .streaming | .failed => c.reset
    | .idle | .stopping => c
  else c

def markFailed (c : Controller) (generation : Nat) : Controller :=
  if c.generation = generation ∧ c.phase = .streaming then { c with phase := .failed } else c

/-- What a stop finds at its beginning: nothing to stop, or what to wait for. -/
inductive Stopping where
  | already
  | joining (generation : Nat) (join : Option Join)
  deriving DecidableEq, Repr

/-- The first section of a stop: what it found, the watch to be cancelled, and the controller. The
first stop of a watch takes the pump over for all of them. -/
def beginStop (c : Controller) : Stopping × Option Nat × Controller :=
  match c.phase with
  | .idle => (.already, none, c)
  | .stopping => (.joining c.generation c.stopping, none, c)
  | .starting | .streaming | .failed =>
      (.joining c.generation (some c.worker), c.cancel,
        { c with phase := .stopping, cancel := none, worker := none, stopping := some c.worker })

def finishStop (c : Controller) (generation : Nat) : Controller :=
  if c.generation = generation ∧ c.phase = .stopping then c.reset else c

def release (c : Controller) : Option Nat × Controller :=
  (c.cancel, { c with cancel := none })

end Controller

end LiveTree.Watch
