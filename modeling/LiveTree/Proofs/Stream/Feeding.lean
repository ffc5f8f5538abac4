import LiveTree.Proofs.Stream.Lines

namespace LiveTree.Stream

namespace Buffer

theorem splitLine_some {b c : Buffer} {line : List UInt8} (h : b.splitLine = (some line, c))
    (hs : lineFeed ∉ b.searched) :
    ∃ inside, line = inside ++ [lineFeed] ∧ lineFeed ∉ inside ∧
      b.bytes = inside ++ lineFeed :: c.fresh ∧ c.searched = [] ∧
      c.fresh.length < b.fresh.length := by
  rw [splitLine] at h
  split at h
  · next found rest back hf =>
      obtain ⟨rfl, rfl⟩ := Prod.mk.inj h |>.imp_left Option.some.inj
      obtain ⟨inside, rfl, hb, hi⟩ := search_line hf
      refine ⟨b.searched.reverse ++ inside, ?_, ?_, ?_, rfl, ?_⟩
      · simp
      · simp [hs, hi]
      · rw [bytes, hb, List.append_assoc]
      · simp only [hb, List.length_append, List.length_cons]
        omega
  · next searched hf => simp at h

theorem splitLine_none {b c : Buffer} (h : b.splitLine = (none, c)) :
    c = ⟨b.bytes.reverse, []⟩ ∧ lineFeed ∉ b.fresh := by
  rw [splitLine] at h
  split at h
  · simp at h
  · next searched hf =>
      obtain ⟨rfl, hn⟩ := search_none hf
      obtain ⟨-, rfl⟩ := Prod.mk.inj h
      exact ⟨by simp [bytes], hn⟩

end Buffer

namespace Pending

theorem isEmpty_iff (r : Pending) : r.isEmpty = true ↔ r = empty := by
  obtain ⟨event, data⟩ := r
  simp [isEmpty, empty]

end Pending

namespace Transcript

theorem addLine_of_ne {t : Transcript} (h : t.status ≠ .reading) (raw : List UInt8) :
    t.addLine raw = t := by
  rw [addLine, if_pos h]

theorem foldl_addLine_of_ne {t : Transcript} (h : t.status ≠ .reading)
    (lines : List (List UInt8)) : lines.foldl addLine t = t := by
  induction lines with
  | nil => rfl
  | cons line lines ih => rw [List.foldl_cons, addLine_of_ne h, ih]

end Transcript

namespace Decoder

/-- What a decoder has made of the lines so far, less what was taken off its queue. -/
def transcript (d : Decoder) : Transcript :=
  ⟨d.pending, d.ready, d.status⟩

@[simp] theorem transcript_pending (d : Decoder) : d.transcript.pending = d.pending := rfl

@[simp] theorem transcript_items (d : Decoder) : d.transcript.items = d.ready := rfl

@[simp] theorem transcript_status (d : Decoder) : d.transcript.status = d.status := rfl

theorem transcript_completeRecord (d : Decoder) (h : d.status = .reading) :
    d.completeRecord.transcript = d.transcript.closeRecord := by
  rw [completeRecord, Transcript.closeRecord, transcript_pending]
  by_cases he : d.pending.isEmpty = true
  · rw [if_pos he, if_pos he, transcript, transcript, ← (Pending.isEmpty_iff _).1 he]
  · rw [if_neg he, if_neg he]
    cases d.pending.decode with
    | ok n =>
        simp only [deliver]
        split <;> simp_all [transcript]
    | error f => rfl

theorem transcript_takeLine (d : Decoder) (h : d.status = .reading) (raw : List UInt8) :
    (d.takeLine raw).transcript = d.transcript.addLine raw := by
  have hr : ¬ d.transcript.status ≠ .reading := fun hn => hn h
  rw [takeLine, Transcript.addLine, if_neg hr]
  cases lineText raw with
  | error flaw => rfl
  | ok line =>
      cases line with
      | nil => exact transcript_completeRecord d h
      | cons c cs => rfl

theorem buffer_takeLine (d : Decoder) (h : d.status = .reading) (raw : List UInt8) :
    (d.takeLine raw).buffer =
      if (d.takeLine raw).status = .reading then d.buffer else Buffer.empty := by
  rw [takeLine]
  split
  · rfl
  · simp only [completeRecord]
    split
    · simp
    · split
      · simp only [deliver]
        split <;> simp
      · rfl
  · simp [h]

/-- Between two pieces of the stream: everything in the buffer has been searched. -/
structure Settled (d : Decoder) : Prop where
  fresh : d.buffer.fresh = []
  searched : lineFeed ∉ d.buffer.searched

theorem settled_new : new.Settled :=
  ⟨rfl, by simp [new, Buffer.empty]⟩

theorem Settled.not_mem_bytes {d : Decoder} (h : d.Settled) : lineFeed ∉ d.buffer.bytes := by
  rw [Buffer.bytes, h.fresh, List.append_nil, List.mem_reverse]
  exact h.searched

theorem turns_of_ne {d : Decoder} (h : d.status ≠ .reading) (fuel : Nat) : d.turns fuel = d := by
  cases fuel with
  | zero => rfl
  | succ fuel => rw [turns, turn, if_pos h]

/-- A turn either finds no line and moves all bytes to the searched ones, or takes in the first
line. -/
theorem turn_cases (d : Decoder) (hr : d.status = .reading) (hs : lineFeed ∉ d.buffer.searched) :
    (lineFeed ∉ d.buffer.bytes ∧ d.turn = ({ d with buffer := ⟨d.buffer.bytes.reverse, []⟩ }, false)) ∨
    ∃ inside rest e, lineFeed ∉ inside ∧ d.buffer.bytes = inside ++ lineFeed :: rest ∧
      rest.length < d.buffer.fresh.length ∧ d.turn = (e, true) ∧
      e.transcript = d.transcript.addLine (inside ++ [lineFeed]) ∧
      e.buffer = if e.status = .reading then ⟨[], rest⟩ else Buffer.empty := by
  rw [turn, if_neg (fun hn => hn hr)]
  cases hl : d.buffer.splitLine with
  | mk found buffer =>
      cases found with
      | none =>
          obtain ⟨rfl, hm⟩ := Buffer.splitLine_none hl
          have hb : lineFeed ∉ d.buffer.bytes := by
            simp [Buffer.bytes, hs, hm]
          exact .inl ⟨hb, rfl⟩
      | some line =>
          obtain ⟨inside, rfl, hi, hb, hc, hlt⟩ := Buffer.splitLine_some hl hs
          have hbuffer : buffer = ⟨[], buffer.fresh⟩ := by
            rw [← hc]
          refine .inr ⟨inside, buffer.fresh, _, hi, hb, hlt, rfl, ?_, ?_⟩
          · exact transcript_takeLine { d with buffer } hr _
          · rw [← hbuffer]
            exact buffer_takeLine { d with buffer } hr _

theorem turns_spec (fuel : Nat) (d : Decoder) (hr : d.status = .reading)
    (hs : lineFeed ∉ d.buffer.searched) (hf : d.buffer.fresh.length < fuel) :
    (d.turns fuel).transcript =
        (completeLines d.buffer.bytes).foldl Transcript.addLine d.transcript ∧
      (d.turns fuel).buffer =
        if (d.turns fuel).status = .reading then ⟨(unfinishedLine d.buffer.bytes).reverse, []⟩
        else Buffer.empty := by
  induction fuel generalizing d with
  | zero => omega
  | succ fuel ih =>
      obtain ⟨hb, ht⟩ | ⟨inside, rest, e, hi, hb, hlt, ht, he, hbuffer⟩ := turn_cases d hr hs
      · rw [turns, ht, unfinishedLine_eq_self hb, (completeLines_eq_nil_iff _).2 hb]
        exact ⟨rfl, (if_pos hr).symm⟩
      · rw [turns, ht, hb, completeLines_line hi, unfinishedLine_line, List.foldl_cons, ← he]
        by_cases hre : e.status = .reading
        · rw [if_pos hre] at hbuffer
          have hbytes : e.buffer.bytes = rest := by
            rw [hbuffer]
            rfl
          have hlt' : e.buffer.fresh.length < fuel := by
            rw [hbuffer]
            simp only
            omega
          rw [← hbytes]
          exact ih e hre (by simp [hbuffer]) hlt'
        · -- the line was the last one that counts
          have hc := Transcript.foldl_addLine_of_ne (t := e.transcript) hre (completeLines rest)
          rw [if_neg hre] at hbuffer
          simp only [turns_of_ne hre, hc, hbuffer, if_neg hre, and_self]

theorem push_of_ne {d : Decoder} (h : d.status ≠ .reading) (chunk : List UInt8) :
    d.push chunk = d := by
  rw [push, if_pos h]

theorem reading_of_push {d : Decoder} {chunk : List UInt8}
    (h : (d.push chunk).status = .reading) : d.status = .reading := by
  by_cases hr : d.status = .reading
  · exact hr
  · rwa [push_of_ne hr] at h

theorem finish_of_ne {d : Decoder} (h : d.status ≠ .reading) : d.finish = d := by
  rw [finish, if_pos h]

theorem push_spec {d : Decoder} (hd : d.Settled) (hr : d.status = .reading) (chunk : List UInt8) :
    (d.push chunk).transcript =
        (completeLines (d.buffer.bytes ++ chunk)).foldl Transcript.addLine d.transcript ∧
      (d.push chunk).buffer =
        if (d.push chunk).status = .reading
        then ⟨(unfinishedLine (d.buffer.bytes ++ chunk)).reverse, []⟩ else Buffer.empty := by
  rw [push, if_neg (fun hn => hn hr), ← Buffer.bytes_append]
  exact turns_spec _ { d with buffer := d.buffer.append chunk } hr hd.searched (Nat.lt_succ_self _)

theorem transcript_push {d : Decoder} (hd : d.Settled) (chunk : List UInt8) :
    (d.push chunk).transcript =
      (completeLines (d.buffer.bytes ++ chunk)).foldl Transcript.addLine d.transcript := by
  by_cases hr : d.status = .reading
  · exact (push_spec hd hr chunk).1
  · rw [push_of_ne hr, Transcript.foldl_addLine_of_ne (t := d.transcript) hr]

theorem bytes_push {d : Decoder} (hd : d.Settled) {chunk : List UInt8}
    (hr : (d.push chunk).status = .reading) :
    (d.push chunk).buffer.bytes = unfinishedLine (d.buffer.bytes ++ chunk) := by
  rw [(push_spec hd (reading_of_push hr) chunk).2, if_pos hr, Buffer.bytes, List.reverse_reverse, List.append_nil]

theorem Settled.push {d : Decoder} (hd : d.Settled) (chunk : List UInt8) :
    (d.push chunk).Settled := by
  by_cases hr : d.status = .reading
  · have hb := (push_spec hd hr chunk).2
    split at hb
    · refine ⟨by rw [hb], ?_⟩
      rw [hb, List.mem_reverse]
      exact lineFeed_not_mem_unfinishedLine _
    · exact ⟨by rw [hb, Buffer.empty], by simp [hb, Buffer.empty]⟩
  · rw [push_of_ne hr]
    exact hd

theorem Settled.next {d : Decoder} (hd : d.Settled) : d.next.2.Settled := by
  rw [Decoder.next]
  split <;> exact ⟨hd.fresh, hd.searched⟩

theorem Settled.finish {d : Decoder} (hd : d.Settled) : d.finish.Settled := by
  rw [Decoder.finish]
  split
  · exact hd
  · exact ⟨rfl, by simp [Buffer.empty]⟩

end Decoder

end LiveTree.Stream
