import LiveTree.Stream.Record

namespace LiveTree.Stream

abbrev Item := Except Failure Notice

inductive Status where
  | reading
  | finished
  | failed
  deriving DecidableEq, Repr

def lineFeed : UInt8 := 0x0A

/-- Bytes that wait for the end of their line. Those in `searched`, kept in reverse, are known to
hold no line feed. -/
structure Buffer where
  searched : List UInt8
  fresh : List UInt8
  deriving DecidableEq, Repr

namespace Buffer

def empty : Buffer :=
  ⟨[], []⟩

def bytes (b : Buffer) : List UInt8 :=
  b.searched.reverse ++ b.fresh

def scanned (b : Buffer) : Nat :=
  b.searched.length

def append (b : Buffer) (chunk : List UInt8) : Buffer :=
  ⟨b.searched, b.fresh ++ chunk⟩

/-- Searches for a line feed: the line that it ends, in reverse, and the bytes behind it, or all
bytes in reverse. -/
def search : List UInt8 → List UInt8 → Option (List UInt8 × List UInt8) × List UInt8
  | searched, [] => (none, searched)
  | searched, b :: rest =>
      if b = lineFeed then (some (b :: searched, rest), []) else search (b :: searched) rest

def splitLine (b : Buffer) : Option (List UInt8) × Buffer :=
  match search b.searched b.fresh with
  | (some (line, rest), _) => (some line.reverse, ⟨[], rest⟩)
  | (none, searched) => (none, ⟨searched, []⟩)

theorem bytes_append (b : Buffer) (chunk : List UInt8) :
    (b.append chunk).bytes = b.bytes ++ chunk := by
  simp [append, bytes]

theorem search_line {searched bytes line rest back : List UInt8}
    (h : search searched bytes = (some (line, rest), back)) :
    ∃ inside, line = lineFeed :: (inside.reverse ++ searched) ∧
      bytes = inside ++ lineFeed :: rest ∧ lineFeed ∉ inside := by
  induction bytes generalizing searched with
  | nil => simp [search] at h
  | cons b bytes ih =>
      simp only [search] at h
      split at h
      · next hb =>
          obtain ⟨⟨rfl, rfl⟩, -⟩ : (b :: searched = line ∧ bytes = rest) ∧ [] = back := by
            simpa using h
          exact ⟨[], by simp [hb]⟩
      · next hb =>
          obtain ⟨inside, hl, hr, hn⟩ := ih h
          exact ⟨b :: inside, by simp [hl], by simp [hr], by simp [hn, Ne.symm hb]⟩

theorem search_none {searched bytes back : List UInt8}
    (h : search searched bytes = (none, back)) :
    back = bytes.reverse ++ searched ∧ lineFeed ∉ bytes := by
  induction bytes generalizing searched with
  | nil => simp_all [search]
  | cons b bytes ih =>
      simp only [search] at h
      split at h
      · simp at h
      · next hb => obtain ⟨hl, hn⟩ := ih h; simp [hl, hn, Ne.symm hb]

end Buffer

structure Decoder where
  buffer : Buffer
  pending : Pending
  ready : List Item
  status : Status

namespace Decoder

def new : Decoder :=
  ⟨Buffer.empty, Pending.empty, [], .reading⟩

def clearBuffer (d : Decoder) : Decoder :=
  { d with buffer := Buffer.empty }

def fail (d : Decoder) (f : Failure) : Decoder :=
  { d with ready := d.ready ++ [.error f], status := .failed, buffer := Buffer.empty }

def deliver (d : Decoder) (n : Notice) : Decoder :=
  let d := { d with ready := d.ready ++ [.ok n] }
  if n.isTerminal then { d with status := .finished, buffer := Buffer.empty } else d

def completeRecord (d : Decoder) : Decoder :=
  let record := d.pending
  let d := { d with pending := Pending.empty }
  if record.isEmpty then d
  else match record.decode with
    | .ok n => d.deliver n
    | .error f => d.fail f

def isLineEnd (c : Char) : Bool :=
  c = '\n' || c = '\r'

def lineText (raw : List UInt8) : Except Text.Utf8.Flaw (List Char) :=
  (Text.Utf8.decode raw).map (Text.dropEndWhile isLineEnd)

def takeLine (d : Decoder) (raw : List UInt8) : Decoder :=
  match lineText raw with
  | .error flaw => d.fail (.decode ("invalid UTF-8 in event stream: " ++ flaw.message))
  | .ok [] => d.completeRecord
  | .ok line => { d with pending := d.pending.pushLine line }

/-- One turn: takes a line off the buffer, if it holds a whole one; none when there is no more to
do. -/
def turn (d : Decoder) : Decoder × Bool :=
  if d.status ≠ .reading then (d, false)
  else match d.buffer.splitLine with
    | (some raw, buffer) => (takeLine { d with buffer } raw, true)
    | (none, buffer) => ({ d with buffer }, false)

/-- Turns until there is no more to do. Each takes a byte at least, which bounds their number. -/
def turns : Nat → Decoder → Decoder
  | 0, d => d
  | fuel + 1, d =>
      match d.turn with
      | (d, true) => turns fuel d
      | (d, false) => d

def push (d : Decoder) (chunk : List UInt8) : Decoder :=
  if d.status ≠ .reading then d
  else
    let buffer := d.buffer.append chunk
    turns (buffer.fresh.length + 1) { d with buffer }

def next (d : Decoder) : Option Item × Decoder :=
  match d.ready with
  | [] => (none, d)
  | item :: rest => (some item, { d with ready := rest })

def finish (d : Decoder) : Decoder :=
  if d.status ≠ .reading then d
  else { d with buffer := Buffer.empty, pending := Pending.empty, status := .finished }

end Decoder

end LiveTree.Stream
