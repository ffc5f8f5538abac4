import LiveTree.Proofs.Stream.Account

namespace LiveTree.Stream

inductive Use where
  | push (chunk : List UInt8)
  | next
  | finish
  deriving DecidableEq

def pushedBytes : List Use → List UInt8
  | [] => []
  | .push chunk :: uses => chunk ++ pushedBytes uses
  | .next :: uses => pushedBytes uses
  | .finish :: _ => []

def Status.close : Status → Status
  | .reading => .finished
  | .finished => .finished
  | .failed => .failed

/-- A decoder in use, with the items taken off its queue. -/
structure Tap where
  taken : List Item
  decoder : Decoder

namespace Tap

def new : Tap :=
  ⟨[], Decoder.new⟩

def use (t : Tap) : Use → Tap
  | .push chunk => { t with decoder := t.decoder.push chunk }
  | .next =>
      match t.decoder.next with
      | (some i, d) => ⟨t.taken ++ [i], d⟩
      | (none, d) => ⟨t.taken, d⟩
  | .finish => { t with decoder := t.decoder.finish }

def given (t : Tap) : List Item :=
  t.taken ++ t.decoder.ready

def status (t : Tap) : Status :=
  t.decoder.status

end Tap

namespace Transcript

def behind (taken : List Item) (t : Transcript) : Transcript :=
  { t with items := taken ++ t.items }

@[simp] theorem behind_pending (taken : List Item) (t : Transcript) :
    (t.behind taken).pending = t.pending := rfl

@[simp] theorem behind_status (taken : List Item) (t : Transcript) :
    (t.behind taken).status = t.status := rfl

theorem closeRecord_behind (taken : List Item) (t : Transcript) :
    (t.behind taken).closeRecord = t.closeRecord.behind taken := by
  rw [closeRecord, closeRecord, behind_pending]
  by_cases he : t.pending.isEmpty = true
  · rw [if_pos he, if_pos he]
  · rw [if_neg he, if_neg he]
    cases t.pending.decode <;> simp [behind]

theorem addLine_behind (taken : List Item) (t : Transcript) (raw : List UInt8) :
    (t.behind taken).addLine raw = (t.addLine raw).behind taken := by
  rw [addLine, addLine, behind_status]
  by_cases hr : t.status ≠ .reading
  · rw [if_pos hr, if_pos hr]
  · rw [if_neg hr, if_neg hr]
    cases Decoder.lineText raw with
    | error flaw => simp [behind]
    | ok line =>
        cases line with
        | nil => exact closeRecord_behind taken t
        | cons c cs => rfl

theorem foldl_addLine_behind (taken : List Item) (t : Transcript) (lines : List (List UInt8)) :
    lines.foldl addLine (t.behind taken) = (lines.foldl addLine t).behind taken := by
  induction lines generalizing t with
  | nil => rfl
  | cons raw rest ih => rw [List.foldl_cons, List.foldl_cons, addLine_behind, ih]

theorem ofBytes_append (before after : List UInt8) :
    ofBytes (before ++ after) =
      (completeLines (unfinishedLine before ++ after)).foldl addLine (ofBytes before) := by
  rw [ofBytes, completeLines_append, List.foldl_append]
  rfl

end Transcript

namespace Decoder

def drained (d : Decoder) : Decoder :=
  { d with ready := [] }

def ofBytes (bytes : List UInt8) : Decoder :=
  let t := Transcript.ofBytes bytes
  let buffer := if t.status = .reading then ⟨(unfinishedLine bytes).reverse, []⟩ else Buffer.empty
  ⟨buffer, t.pending, [], t.status⟩

theorem drained_finish (d : Decoder) : d.finish.drained = d.drained.finish :=
  apply_ite drained (d.status ≠ .reading) d _

end Decoder

namespace Tap

/-- A tap has given out what some bytes say, and remembers what they leave unfinished. -/
structure Follows (t : Tap) (bytes : List UInt8) : Prop where
  settled : t.decoder.Settled
  transcript : t.decoder.transcript.behind t.taken = Transcript.ofBytes bytes
  waiting : t.status = .reading → t.decoder.buffer.bytes = unfinishedLine bytes

theorem follows_new : new.Follows [] :=
  ⟨Decoder.settled_new, rfl, fun _ => rfl⟩

theorem Follows.given_eq {t : Tap} {bytes : List UInt8} (h : t.Follows bytes) :
    t.given = (Transcript.ofBytes bytes).items := by
  rw [← h.transcript]
  rfl

theorem Follows.status_eq {t : Tap} {bytes : List UInt8} (h : t.Follows bytes) :
    t.status = (Transcript.ofBytes bytes).status := by
  rw [← h.transcript]
  rfl

theorem Follows.push {t : Tap} {bytes : List UInt8} (h : t.Follows bytes) (chunk : List UInt8) :
    (t.use (.push chunk)).Follows (bytes ++ chunk) := by
  refine ⟨h.settled.push chunk, ?_, ?_⟩
  · rw [Transcript.ofBytes_append, ← h.transcript, Transcript.foldl_addLine_behind]
    by_cases hr : t.status = .reading
    · rw [← h.waiting hr, ← Decoder.transcript_push h.settled]
      rfl
    · have hc := Transcript.foldl_addLine_of_ne (t := t.decoder.transcript) hr
      rw [hc, use, Decoder.push_of_ne hr]
  · intro hr
    rw [unfinishedLine_append, ← h.waiting (Decoder.reading_of_push hr)]
    exact Decoder.bytes_push h.settled hr

theorem Follows.next {t : Tap} {bytes : List UInt8} (h : t.Follows bytes) :
    (t.use .next).Follows bytes := by
  obtain ⟨taken, d⟩ := t
  simp only [use, Decoder.next]
  cases hq : d.ready with
  | nil => exact h
  | cons i rest =>
      refine ⟨⟨h.settled.fresh, h.settled.searched⟩, ?_, h.waiting⟩
      rw [← h.transcript]
      simp [Transcript.behind, Decoder.transcript, hq]

/-- Once a decoder has stopped, pieces and ends change nothing, and what is in the queue can still be
taken off in its order. -/
theorem foldl_use_stopped {t : Tap} (h : t.status ≠ .reading) (uses : List Use) :
    uses.foldl use t = ⟨t.taken ++ t.decoder.ready.take (uses.count .next),
      { t.decoder with ready := t.decoder.ready.drop (uses.count .next) }⟩ := by
  induction uses generalizing t with
  | nil => simp
  | cons u uses ih =>
      cases u with
      | push chunk =>
          have hstay : t.use (.push chunk) = t := by
            rw [use, Decoder.push_of_ne h]
          rw [List.foldl_cons, hstay, ih h, List.count_cons_of_ne (by simp)]
      | finish =>
          have hstay : t.use .finish = t := by
            rw [use, Decoder.finish_of_ne h]
          rw [List.foldl_cons, hstay, ih h, List.count_cons_of_ne (by simp)]
      | next =>
          obtain ⟨taken, buffer, pending, ready, status⟩ := t
          cases ready with
          | nil => simpa [use, Decoder.next] using ih h
          | cons i rest =>
              have hrest := ih (t := ⟨taken ++ [i], buffer, pending, rest, status⟩) h
              simpa [use, Decoder.next] using hrest

theorem foldl_use_of_ne {t : Tap} (h : t.status ≠ .reading) (uses : List Use) :
    (uses.foldl use t).given = t.given ∧ (uses.foldl use t).status = t.status := by
  rw [foldl_use_stopped h]
  refine ⟨?_, rfl⟩
  rw [given, List.append_assoc, List.take_append_drop]
  rfl

theorem given_finish (t : Tap) : (t.use .finish).given = t.given := by
  rw [use, given, given, Decoder.finish]
  split <;> rfl

theorem status_finish (t : Tap) : (t.use .finish).status = t.status.close := by
  rw [use, status, status, Decoder.finish]
  cases ht : t.decoder.status <;> simp [ht, Status.close]

theorem status_finish_ne (t : Tap) : (t.use .finish).status ≠ .reading := by
  rw [status_finish]
  cases t.status <;> simp [Status.close]

theorem foldl_use {t : Tap} {bytes : List UInt8} (h : t.Follows bytes) (uses : List Use) :
    (uses.foldl use t).given = (Transcript.ofBytes (bytes ++ pushedBytes uses)).items ∧
      (uses.foldl use t).status =
        if .finish ∈ uses then (Transcript.ofBytes (bytes ++ pushedBytes uses)).status.close
        else (Transcript.ofBytes (bytes ++ pushedBytes uses)).status := by
  induction uses generalizing t bytes with
  | nil => simpa [pushedBytes] using And.intro h.given_eq h.status_eq
  | cons u uses ih =>
      cases u with
      | push chunk => simpa [pushedBytes] using ih (h.push chunk)
      | next => simpa [pushedBytes] using ih h.next
      | finish =>
          obtain ⟨hg, hs⟩ := foldl_use_of_ne (status_finish_ne t) uses
          rw [given_finish] at hg
          rw [status_finish] at hs
          simp [pushedBytes, hg, hs, h.given_eq, h.status_eq]

theorem Follows.pending_eq {t : Tap} {bytes : List UInt8} (h : t.Follows bytes) :
    t.decoder.pending = (Transcript.ofBytes bytes).pending := by
  rw [← h.transcript]
  rfl

theorem Follows.drained_eq {t : Tap} {bytes : List UInt8} (h : t.Follows bytes)
    (hb : t.decoder.buffer = (Decoder.ofBytes bytes).buffer) :
    t.decoder.drained = Decoder.ofBytes bytes := by
  have hs : t.decoder.status = (Transcript.ofBytes bytes).status := h.status_eq
  rw [Decoder.drained, hb, h.pending_eq, hs]
  rfl

theorem Follows.drained_push {t : Tap} {bytes : List UInt8} (h : t.Follows bytes)
    (hd : t.decoder.drained = Decoder.ofBytes bytes) (chunk : List UInt8) :
    (t.use (.push chunk)).decoder.drained = Decoder.ofBytes (bytes ++ chunk) := by
  have hpushed := h.push chunk
  have hs : (t.decoder.push chunk).status = (Transcript.ofBytes (bytes ++ chunk)).status :=
    hpushed.status_eq
  refine hpushed.drained_eq ?_
  rw [Decoder.ofBytes, ← hs]
  by_cases hr : t.decoder.status = .reading
  · have hbuffer := (Decoder.push_spec h.settled hr chunk).2
    rwa [h.waiting hr, ← unfinishedLine_append] at hbuffer
  · have hbuffer : t.decoder.buffer = (Decoder.ofBytes bytes).buffer := by
      rw [← hd]
      rfl
    have hbytes : (Transcript.ofBytes bytes).status ≠ .reading := h.status_eq ▸ hr
    rw [use, Decoder.push_of_ne hr]
    exact (hbuffer.trans (if_neg hbytes)).trans (if_neg hr).symm

theorem drained_next (t : Tap) : (t.use .next).decoder.drained = t.decoder.drained := by
  obtain ⟨taken, d⟩ := t
  simp only [use, Decoder.next]
  cases d.ready <;> rfl

theorem drained_of_ne {t : Tap} (h : t.status ≠ .reading) (uses : List Use) :
    (uses.foldl use t).decoder.drained = t.decoder.drained := by
  rw [foldl_use_stopped h]
  rfl

/-- All that a decoder remembers, its queue apart, comes of the bytes that went into it. -/
theorem drained_foldl_use {t : Tap} {bytes : List UInt8} (h : t.Follows bytes)
    (hd : t.decoder.drained = Decoder.ofBytes bytes) (uses : List Use) :
    (uses.foldl use t).decoder.drained =
      if .finish ∈ uses then (Decoder.ofBytes (bytes ++ pushedBytes uses)).finish
      else Decoder.ofBytes (bytes ++ pushedBytes uses) := by
  induction uses generalizing t bytes with
  | nil => simpa [pushedBytes] using hd
  | cons u uses ih =>
      cases u with
      | push chunk => simpa [pushedBytes] using ih (h.push chunk) (h.drained_push hd chunk)
      | next => simpa [pushedBytes] using ih h.next ((drained_next t).trans hd)
      | finish =>
          rw [List.foldl_cons, drained_of_ne (status_finish_ne t), use, Decoder.drained_finish, hd]
          simp [pushedBytes]

/-- A decoder gives out what the bytes pushed into it say, however they are cut into pieces and
whenever items are taken. -/
theorem uses_give_account (uses : List Use) :
    (uses.foldl use new).given = (Account.ofBytes (pushedBytes uses)).items ∧
      (uses.foldl use new).status =
        (if .finish ∈ uses then (Account.ofBytes (pushedBytes uses)).status.close
        else (Account.ofBytes (pushedBytes uses)).status) ∧
      ∀ others, pushedBytes others = pushedBytes uses → (.finish ∈ others ↔ .finish ∈ uses) →
        (others.foldl use new).given = (uses.foldl use new).given ∧
          (others.foldl use new).status = (uses.foldl use new).status := by
  have hall (uses : List Use) := foldl_use follows_new uses
  simp only [List.nil_append, Transcript.ofBytes_eq] at hall
  refine ⟨(hall uses).1, (hall uses).2, ?_⟩
  intro others hb hf
  obtain ⟨hg, hs⟩ := hall others
  simp only [hb, hf] at hg hs
  exact ⟨hg.trans (hall uses).1.symm, hs.trans (hall uses).2.symm⟩

/-- Two records in pieces that part names, carriage returns from their line feeds, and the bytes of a
character. Comments and the first event say nothing, one blank behind a colon is dropped and the next
one is kept, and nothing is read behind the record that ends the stream. A line that is no UTF-8 ends
it as well. -/
theorem uses_give_account_cut :
    let whole := Text.Utf8.encode (": \u00E9\nevent:put\r\nevent: patch\r\r\n" ++
      "data: \x7b\"path\":\"/a\",\ndata:\"data\":1\x7d\n\r\n" ++
      "event: cancel\ndata: so\ndata:  be it\n\nevent: keep-alive\n\n").toList
    let cut : List Use := [.push (whole.take 3), .next, .push [], .push ((whole.drop 3).take 12),
      .push ((whole.drop 15).take 60), .next, .next, .push (whole.drop 75)]
    let ill : List Use := [.push (Text.Utf8.encode "event: keep-alive\n\nd".toList ++ [0xC3]),
      .push [0x0A], .push (Text.Utf8.encode "event: keep-alive\n\n".toList)]
    (cut.foldl use new).given = [.ok (.change .patch ⟨"/a", .number (.whole 1)⟩),
      .ok (.cancel (some "so\n be it"))] ∧
    (cut.foldl use new).status = .finished ∧
    ([.push whole].foldl use new).given = (cut.foldl use new).given ∧
    (ill.foldl use new).given = [.ok .keepAlive, .error (.decode
      "invalid UTF-8 in event stream: invalid utf-8 sequence of 1 bytes from index 1")] ∧
    (ill.foldl use new).status = .failed := by
  intro whole cut ill
  obtain ⟨hgiven, hstatus, hothers⟩ := uses_give_account cut
  obtain ⟨hillGiven, hillStatus, -⟩ := uses_give_account ill
  have hbytes : pushedBytes cut = whole := by decide +kernel
  have hfinish : Use.finish ∉ cut := by simp [cut]
  have hillFinish : Use.finish ∉ ill := by simp [ill]
  rw [hbytes] at hgiven hstatus
  have haccount : Account.ofBytes whole = ⟨[.ok (.change .patch ⟨"/a", .number (.whole 1)⟩),
      .ok (.cancel (some "so\n be it"))], .finished⟩ := by decide +kernel
  have hill : Account.ofBytes (pushedBytes ill) = ⟨[.ok .keepAlive, .error (.decode
      "invalid UTF-8 in event stream: invalid utf-8 sequence of 1 bytes from index 1")], .failed⟩ := by
    decide +kernel
  rw [haccount] at hgiven hstatus
  rw [hill] at hillGiven hillStatus
  refine ⟨hgiven, hstatus.trans (if_neg hfinish), (hothers [.push whole] ?_ ?_).1, hillGiven,
    hillStatus.trans (if_neg hillFinish)⟩
  · decide +kernel
  · simp [cut]

end Tap

end LiveTree.Stream
