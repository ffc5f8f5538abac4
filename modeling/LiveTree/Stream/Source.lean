import LiveTree.Stream.Decoder

namespace LiveTree.Stream

abbrev Piece := Except Failure (List UInt8)

/-- The pieces still to come, whether more may follow them, and how often the body was asked for
one. -/
structure Source where
  body : List Piece
  leftOpen : Bool
  decoder : Decoder
  done : Bool
  asked : Nat

inductive Poll where
  | item (i : Item)
  | ended
  | waiting

namespace Source

def ofBody (body : List Piece) : Source :=
  ⟨body, false, Decoder.new, false, 0⟩

def ofOpenBody (body : List Piece) : Source :=
  ⟨body, true, Decoder.new, false, 0⟩

def isOver (s : Source) : Bool :=
  s.done || s.decoder.status ≠ .reading

/-- Asks the body for its next piece and takes that in; a failure is passed on as it is. -/
def advance (s : Source) : Option Poll × Source :=
  let s := { s with asked := s.asked + 1 }
  match s.body with
  | [] =>
      if s.leftOpen then (some .waiting, s)
      else (none, { s with decoder := s.decoder.finish, done := true })
  | .ok chunk :: rest => (none, { s with body := rest, decoder := s.decoder.push chunk })
  | .error f :: rest => (some (.item (.error f)), { s with body := rest, done := true })

def attempt (s : Source) : Option Poll × Source :=
  match s.decoder.next with
  | (some item, decoder) => (some (.item item), { s with decoder })
  | (none, _) => if s.isOver then (some .ended, s) else s.advance

/-- Attempts until one has an outcome. Each takes a piece, and the end of the body is one more. -/
def pollFrom : Nat → Source → Poll × Source
  | 0, s => (.ended, s)
  | fuel + 1, s =>
      match s.attempt with
      | (some outcome, s) => (outcome, s)
      | (none, s) => pollFrom fuel s

def poll (s : Source) : Poll × Source :=
  pollFrom (s.body.length + 3) s

end Source

end LiveTree.Stream
