import LiveTree.Watch.System

namespace LiveTree.Watch

def pieceSize : Stream.Piece → Nat
  | .ok chunk => chunk.length + 1
  | .error _ => 1

def sourceSize (s : Stream.Source) : Nat :=
  s.body.foldr (fun piece n => pieceSize piece + n)
    (s.decoder.buffer.bytes.length + s.decoder.ready.length + 2)

def answerSize (a : Answer) : Nat :=
  sourceSize (Exchange.sourceOf a)

def pumpSteps (size : Nat) : Nat :=
  3 * size + 8

def Call.work (c : Call) : Nat :=
  match c.point with
  | .pumping p => pumpSteps (sourceSize p.source)
  | .connected _ a => pumpSteps (answerSize a) + 1
  | _ => 4

def Call.nextMove? (c : Call) (cancelled : Bool) : Option CallMove :=
  match c.point with
  | .entering => some .enter
  | .awaiting _ issued => if cancelled then some .withdraw else if issued then none else some .issue
  | .withdrawing _ _ => some .settle
  | .connected _ _ => some .establish
  | .refused _ | .abandoned => none
  | .pumping p =>
      match p.point with
      | .polling => some .poll
      | .sending _ true => some .offer
      | .sending _ false =>
          if cancelled || c.channel.receiverGone || c.channel.hasRoom then some .look else none
      | .marking _ => some .mark
      | .retiring => some .retire
      | .closing => some .close
      | .ended => none

def StopPoint.nextMove? : StopPoint → Option StopMove
  | .entering => some .enter
  | .joining _ _ => some .join
  | .leaving _ => some .leave
  | .returned | .abandoned => none

namespace System

def callMove? (s : System) (number : Nat) : Option System := do
  let c ← s.calls[number]?
  let m ← c.nextMove? (s.isCancelled number)
  s.fireCall? number m

def stopMove? (s : System) (number : Nat) : Option System := do
  let p ← s.stops[number]?
  let m ← p.nextMove?
  s.fireStop? number m

def advance? (s : System) : Option System :=
  ((List.range s.stops.length).findSome? s.stopMove?).or
    ((List.range s.calls.length).findSome? s.callMove?)

def work (s : System) : Nat :=
  s.calls.foldr (fun c n => c.work + n) (3 * s.stops.length)

def advanceBy : Nat → System → System
  | 0, s => s
  | fuel + 1, s =>
      match s.advance? with
      | none => s
      | some s => advanceBy fuel s

def rest (s : System) : System :=
  advanceBy s.work s

end System

end LiveTree.Watch
