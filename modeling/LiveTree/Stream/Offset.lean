import LiveTree.Stream.Decoder

namespace LiveTree.Stream

structure OffsetBuffer where
  bytes : List UInt8
  scanned : Nat
  deriving DecidableEq, Repr

namespace OffsetBuffer

def empty : OffsetBuffer :=
  ⟨[], 0⟩

def append (b : OffsetBuffer) (chunk : List UInt8) : OffsetBuffer :=
  { b with bytes := b.bytes ++ chunk }

def unsearched? (b : OffsetBuffer) : Option (List UInt8) :=
  if b.scanned ≤ b.bytes.length then some (b.bytes.drop b.scanned) else none

def split? (b : OffsetBuffer) (n : Nat) : Option (List UInt8 × OffsetBuffer) :=
  if n ≤ b.bytes.length then some (b.bytes.take n, { b with bytes := b.bytes.drop n }) else none

def splitLine? (b : OffsetBuffer) : Option (Option (List UInt8) × OffsetBuffer) := do
  let fresh ← b.unsearched?
  match fresh.findIdx? (· = lineFeed) with
  | none => return (none, { b with scanned := b.bytes.length })
  | some offset =>
      let (line, rest) ← b.split? (b.scanned + offset + 1)
      return (some line, { rest with scanned := 0 })

theorem split?_eq_some_iff {b c : OffsetBuffer} {n : Nat} {line : List UInt8} :
    b.split? n = some (line, c) ↔
      n ≤ b.bytes.length ∧ line = b.bytes.take n ∧ c = { b with bytes := b.bytes.drop n } := by
  rw [split?]
  split
  · next hn => simp [hn, eq_comm]
  · next hn => simp [hn]

theorem length_splitLine?_lt {b c : OffsetBuffer} {line : List UInt8}
    (h : b.splitLine? = some (some line, c)) : c.bytes.length < b.bytes.length := by
  obtain ⟨fresh, -, h⟩ := Option.bind_eq_some_iff.1 h
  split at h
  · simp at h
  · obtain ⟨⟨found, rest⟩, hs, h⟩ := Option.bind_eq_some_iff.1 h
    obtain ⟨hn, -, rfl⟩ := split?_eq_some_iff.1 hs
    obtain ⟨-, rfl⟩ := Prod.mk.inj (Option.some.inj h)
    simp only [List.length_drop]
    omega

end OffsetBuffer

structure OffsetDecoder where
  buffer : OffsetBuffer
  pending : Pending
  ready : List Item
  status : Status

namespace OffsetDecoder

def new : OffsetDecoder :=
  ⟨OffsetBuffer.empty, Pending.empty, [], .reading⟩

def clearBuffer (d : OffsetDecoder) : OffsetDecoder :=
  { d with buffer := OffsetBuffer.empty }

def fail (d : OffsetDecoder) (f : Failure) : OffsetDecoder :=
  clearBuffer { d with ready := d.ready ++ [.error f], status := .failed }

def deliver (d : OffsetDecoder) (n : Notice) : OffsetDecoder :=
  let d := { d with ready := d.ready ++ [.ok n] }
  if n.isTerminal then clearBuffer { d with status := .finished } else d

def completeRecord (d : OffsetDecoder) : OffsetDecoder :=
  let record := d.pending
  let d := { d with pending := Pending.empty }
  if record.isEmpty then d
  else match record.decode with
    | .ok n => d.deliver n
    | .error f => d.fail f

def takeLine (d : OffsetDecoder) (raw : List UInt8) : OffsetDecoder :=
  match Decoder.lineText raw with
  | .error flaw => d.fail (.decode ("invalid UTF-8 in event stream: " ++ flaw.message))
  | .ok [] => d.completeRecord
  | .ok line => { d with pending := d.pending.pushLine line }

def turn? (d : OffsetDecoder) : Option (OffsetDecoder × Bool) :=
  if d.status ≠ .reading then some (d, false)
  else d.buffer.splitLine?.map fun
    | (some raw, buffer) => (takeLine { d with buffer } raw, true)
    | (none, buffer) => ({ d with buffer }, false)

theorem buffer_takeLine (d : OffsetDecoder) (raw : List UInt8) :
    (d.takeLine raw).buffer = d.buffer ∨ (d.takeLine raw).buffer = OffsetBuffer.empty := by
  rw [takeLine]
  split
  · exact .inr rfl
  · simp only [completeRecord]
    split
    · exact .inl rfl
    · split
      · simp only [deliver]
        split
        · exact .inr rfl
        · exact .inl rfl
      · exact .inr rfl
  · exact .inl rfl

theorem length_turn?_lt {d e : OffsetDecoder} (h : d.turn? = some (e, true)) :
    e.buffer.bytes.length < d.buffer.bytes.length := by
  rw [turn?] at h
  split at h
  · simp at h
  · obtain ⟨⟨found, buffer⟩, hs, h⟩ := Option.map_eq_some_iff.1 h
    cases found with
    | none => simp at h
    | some raw =>
        have hlt := OffsetBuffer.length_splitLine?_lt hs
        obtain ⟨rfl, -⟩ := Prod.mk.inj h
        obtain hb | hb := buffer_takeLine { d with buffer } raw
        · rwa [hb]
        · rw [hb]
          exact Nat.zero_lt_of_lt hlt

def turns? (d : OffsetDecoder) : Option OffsetDecoder :=
  match _h : d.turn? with
  | none => none
  | some (e, false) => some e
  | some (e, true) => turns? e
termination_by d.buffer.bytes.length
decreasing_by exact length_turn?_lt ‹_›

theorem turns?_of_done {d e : OffsetDecoder} (h : d.turn? = some (e, false)) :
    d.turns? = some e := by
  rw [turns?]
  split <;> simp_all

theorem turns?_of_more {d e : OffsetDecoder} (h : d.turn? = some (e, true)) :
    d.turns? = e.turns? := by
  rw [turns?]
  split <;> simp_all

def push? (d : OffsetDecoder) (chunk : List UInt8) : Option OffsetDecoder :=
  if d.status ≠ .reading then some d
  else turns? { d with buffer := d.buffer.append chunk }

def next (d : OffsetDecoder) : Option Item × OffsetDecoder :=
  match d.ready with
  | [] => (none, d)
  | item :: rest => (some item, { d with ready := rest })

def finish (d : OffsetDecoder) : OffsetDecoder :=
  if d.status ≠ .reading then d
  else { d.clearBuffer with pending := Pending.empty, status := .finished }

end OffsetDecoder

end LiveTree.Stream
