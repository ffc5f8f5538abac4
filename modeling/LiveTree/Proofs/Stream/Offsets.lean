import LiveTree.Proofs.Stream.Chunking
import LiveTree.Stream.Offset

namespace LiveTree.Stream

theorem findIdx?_of_not_mem {bytes : List UInt8} (h : lineFeed ∉ bytes) :
    bytes.findIdx? (· = lineFeed) = none :=
  List.findIdx?_eq_none_iff.2 fun _ hb => decide_eq_false fun he => h (he ▸ hb)

theorem findIdx?_lineFeed {inside : List UInt8} (h : lineFeed ∉ inside) (rest : List UInt8) :
    (inside ++ lineFeed :: rest).findIdx? (· = lineFeed) = some inside.length := by
  simp [List.findIdx?_append, findIdx?_of_not_mem h, List.findIdx?_cons]

namespace OffsetBuffer

/-- The offset is within the bytes, and no line feed stands before it. -/
structure IsSearched (b : OffsetBuffer) : Prop where
  within : b.scanned ≤ b.bytes.length
  clean : lineFeed ∉ b.bytes.take b.scanned

theorem unsearched?_append (searched fresh : List UInt8) :
    (⟨searched ++ fresh, searched.length⟩ : OffsetBuffer).unsearched? = some fresh := by
  simp [unsearched?]

theorem split?_append (searched inside rest : List UInt8) :
    (⟨searched ++ (inside ++ lineFeed :: rest), searched.length⟩ : OffsetBuffer).split?
        (searched.length + inside.length + 1) =
      some (searched ++ inside ++ [lineFeed], ⟨rest, searched.length⟩) := by
  have hb : searched ++ (inside ++ lineFeed :: rest) = searched ++ inside ++ [lineFeed] ++ rest := by
    simp
  have hn : searched.length + inside.length + 1 = (searched ++ inside ++ [lineFeed]).length := by
    simp [Nat.add_assoc]
  rw [split?_eq_some_iff, hb, hn, List.take_left, List.drop_left]
  exact ⟨by simp, rfl, rfl⟩

theorem splitLine?_line {inside : List UInt8} (searched rest : List UInt8)
    (h : lineFeed ∉ inside) :
    (⟨searched ++ (inside ++ lineFeed :: rest), searched.length⟩ : OffsetBuffer).splitLine? =
      some (some (searched ++ inside ++ [lineFeed]), ⟨rest, 0⟩) := by
  simp [splitLine?, unsearched?_append, findIdx?_lineFeed h, split?_append]

theorem splitLine?_none {fresh : List UInt8} (searched : List UInt8) (h : lineFeed ∉ fresh) :
    (⟨searched ++ fresh, searched.length⟩ : OffsetBuffer).splitLine? =
      some (none, ⟨searched ++ fresh, (searched ++ fresh).length⟩) := by
  simp [splitLine?, unsearched?_append, findIdx?_of_not_mem h]

/-- From a searched buffer on both accesses of a turn are within the bytes, and the line that is
split off has one line feed, at its end. -/
theorem IsSearched.accesses {b : OffsetBuffer} (h : b.IsSearched) :
    ∃ fresh, b.unsearched? = some fresh ∧
      ∀ i, fresh.findIdx? (· = lineFeed) = some i → ∃ inside rest,
        b.split? (b.scanned + i + 1) = some (inside ++ [lineFeed], rest) ∧ lineFeed ∉ inside := by
  obtain ⟨searched, fresh, rfl⟩ : ∃ searched fresh, b = ⟨searched ++ fresh, searched.length⟩ :=
    ⟨b.bytes.take b.scanned, b.bytes.drop b.scanned, by simp [h.within]⟩
  have hs : lineFeed ∉ searched := by simpa using h.clean
  refine ⟨fresh, unsearched?_append searched fresh, fun i hi => ?_⟩
  by_cases hm : lineFeed ∈ fresh
  · obtain ⟨inside, rest, rfl, hn⟩ := exists_line_of_mem hm
    obtain rfl := Option.some.inj (hi.symm.trans (findIdx?_lineFeed hn rest))
    exact ⟨searched ++ inside, _, split?_append searched inside rest, by simp [hs, hn]⟩
  · exact absurd (hi.symm.trans (findIdx?_of_not_mem hm)) (by simp)

end OffsetBuffer

namespace Buffer

def byOffset (b : Buffer) : OffsetBuffer :=
  ⟨b.bytes, b.scanned⟩

theorem byOffset_eq (b : Buffer) :
    b.byOffset = ⟨b.searched.reverse ++ b.fresh, b.searched.reverse.length⟩ := by
  simp [byOffset, bytes, scanned]

theorem byOffset_append (b : Buffer) (chunk : List UInt8) :
    (b.append chunk).byOffset = b.byOffset.append chunk := by
  rw [byOffset, bytes_append]
  rfl

theorem isSearched_byOffset {b : Buffer} (h : lineFeed ∉ b.searched) : b.byOffset.IsSearched := by
  rw [byOffset_eq]
  exact ⟨by simp, by simpa using h⟩

theorem splitLine?_byOffset (b : Buffer) :
    b.byOffset.splitLine? = some (b.splitLine.1, b.splitLine.2.byOffset) := by
  rw [byOffset_eq, splitLine]
  split
  · next found rest back hf =>
      obtain ⟨inside, rfl, hb, hi⟩ := search_line hf
      rw [hb, OffsetBuffer.splitLine?_line _ _ hi]
      simp [byOffset, bytes, scanned]
  · next searched hf =>
      obtain ⟨rfl, hn⟩ := search_none hf
      rw [OffsetBuffer.splitLine?_none _ hn]
      simp [byOffset, bytes, scanned, Nat.add_comm]

end Buffer

namespace Decoder

def byOffset (d : Decoder) : OffsetDecoder :=
  ⟨d.buffer.byOffset, d.pending, d.ready, d.status⟩

theorem byOffset_deliver (d : Decoder) (n : Notice) :
    (d.deliver n).byOffset = d.byOffset.deliver n :=
  apply_ite byOffset (n.isTerminal = true) _ _

theorem byOffset_completeRecord (d : Decoder) :
    d.completeRecord.byOffset = d.byOffset.completeRecord := by
  have hp : d.byOffset.pending = d.pending := rfl
  rw [completeRecord, OffsetDecoder.completeRecord, hp]
  by_cases he : d.pending.isEmpty = true
  · rw [if_pos he, if_pos he]
    rfl
  · rw [if_neg he, if_neg he]
    cases d.pending.decode with
    | ok n => exact byOffset_deliver _ n
    | error f => rfl

theorem byOffset_takeLine (d : Decoder) (raw : List UInt8) :
    (d.takeLine raw).byOffset = d.byOffset.takeLine raw := by
  rw [takeLine, OffsetDecoder.takeLine]
  cases lineText raw with
  | error flaw => rfl
  | ok line =>
      cases line with
      | nil => exact byOffset_completeRecord d
      | cons c cs => rfl

theorem byOffset_append (d : Decoder) (chunk : List UInt8) :
    byOffset { d with buffer := d.buffer.append chunk } =
      { d.byOffset with buffer := d.byOffset.buffer.append chunk } := by
  rw [byOffset, Buffer.byOffset_append]
  rfl

/-- A turn that took a line leaves fewer bytes to search, and none that has been searched. -/
theorem turn_true {d e : Decoder} (hs : lineFeed ∉ d.buffer.searched) (h : d.turn = (e, true)) :
    lineFeed ∉ e.buffer.searched ∧ e.buffer.fresh.length < d.buffer.fresh.length := by
  by_cases hr : d.status = .reading
  · obtain ⟨-, ht⟩ | ⟨inside, rest, e', -, -, hlt, ht, -, hb⟩ := turn_cases d hr hs
    · simp [ht] at h
    · obtain ⟨rfl, -⟩ := Prod.mk.inj (ht.symm.trans h)
      rw [hb]
      split
      · exact ⟨by simp, hlt⟩
      · exact ⟨by simp [Buffer.empty], Nat.zero_lt_of_lt hlt⟩
  · rw [turn, if_pos hr] at h
    simp at h

theorem turn?_byOffset (d : Decoder) :
    d.byOffset.turn? = some (d.turn.1.byOffset, d.turn.2) := by
  have hl := d.buffer.splitLine?_byOffset
  by_cases hr : d.status ≠ .reading
  · rw [turn, if_pos hr]
    exact if_pos hr
  · rw [turn, if_neg hr]
    refine (if_neg hr).trans ?_
    cases hs : d.buffer.splitLine with
    | mk found buffer =>
        rw [hs] at hl
        cases found with
        | none => exact congrArg (Option.map _) hl
        | some raw =>
            refine (congrArg (Option.map _) hl).trans ?_
            simp only [byOffset_takeLine]
            rfl

theorem turns?_byOffset (fuel : Nat) (d : Decoder) (hs : lineFeed ∉ d.buffer.searched)
    (hf : d.buffer.fresh.length < fuel) : d.byOffset.turns? = some (d.turns fuel).byOffset := by
  induction fuel generalizing d with
  | zero => omega
  | succ fuel ih =>
      have ht := turn?_byOffset d
      rw [turns]
      cases hd : d.turn with
      | mk e more =>
          rw [hd] at ht
          cases more with
          | false => exact OffsetDecoder.turns?_of_done ht
          | true =>
              -- fewer bytes are left to search, so that the fuel outlasts the turns
              obtain ⟨he, hlt⟩ := turn_true hs hd
              exact (OffsetDecoder.turns?_of_more ht).trans (ih e he (by omega))

theorem push?_byOffset {d : Decoder} (hd : d.Settled) (chunk : List UInt8) :
    d.byOffset.push? chunk = some (d.push chunk).byOffset := by
  by_cases hr : d.status ≠ .reading
  · rw [push_of_ne hr]
    exact if_pos hr
  · rw [push, if_neg hr]
    refine (if_neg hr).trans ?_
    rw [← byOffset_append]
    exact turns?_byOffset _ { d with buffer := d.buffer.append chunk } hd.searched (Nat.lt_succ_self _)

theorem byOffset_next (d : Decoder) : d.next.2.byOffset = d.byOffset.next.2 := by
  rw [next, OffsetDecoder.next]
  cases hq : d.ready <;> simp [byOffset, hq]

theorem buffer_finish {d : Decoder} (h : d.status ≠ .reading → d.buffer = Buffer.empty) :
    d.finish.buffer = Buffer.empty := by
  rw [finish]
  split
  · next hr => exact h hr
  · rfl

theorem byOffset_finish (d : Decoder) : d.finish.byOffset = d.byOffset.finish :=
  apply_ite byOffset (d.status ≠ .reading) d _

end Decoder

namespace OffsetDecoder

def use? (d : OffsetDecoder) : Use → Option OffsetDecoder
  | .push chunk => d.push? chunk
  | .next => some d.next.2
  | .finish => some d.finish

inductive BeginsTurn (d : OffsetDecoder) (chunk : List UInt8) : OffsetDecoder → Prop
  | first (h : d.status = .reading) :
      BeginsTurn d chunk { d with buffer := d.buffer.append chunk }
  | again {e f : OffsetDecoder} (h : BeginsTurn d chunk e) (ht : e.turn? = some (f, true)) :
      BeginsTurn d chunk f

/-- Every turn of a push by offsets is one of the decoder, whose searched bytes hold no line feed. -/
theorem BeginsTurn.exists_byOffset {d : Decoder} {chunk : List UInt8} {e : OffsetDecoder}
    (hd : d.Settled) (h : BeginsTurn d.byOffset chunk e) :
    ∃ f : Decoder, e = f.byOffset ∧ lineFeed ∉ f.buffer.searched := by
  induction h with
  | first h => exact ⟨_, (Decoder.byOffset_append d chunk).symm, hd.searched⟩
  | again _ ht ih =>
      obtain ⟨f, rfl, hf⟩ := ih
      rw [Decoder.turn?_byOffset] at ht
      obtain ⟨rfl, hm⟩ := Prod.mk.inj (Option.some.inj ht)
      exact ⟨f.turn.1, rfl, (Decoder.turn_true hf (Prod.ext rfl hm)).1⟩

end OffsetDecoder

namespace Tap

theorem decoder_next (t : Tap) : (t.use .next).decoder = t.decoder.next.2 := by
  rw [use]
  split <;> next h => rw [h]

theorem settled_use {t : Tap} (h : t.decoder.Settled) (u : Use) : (t.use u).decoder.Settled := by
  cases u with
  | push chunk => exact h.push chunk
  | next => exact decoder_next t ▸ h.next
  | finish => exact h.finish

theorem settled_foldl_use {t : Tap} (h : t.decoder.Settled) (uses : List Use) :
    (uses.foldl use t).decoder.Settled := by
  induction uses generalizing t with
  | nil => exact h
  | cons u uses ih => exact ih (settled_use h u)

theorem use?_byOffset {t : Tap} (h : t.decoder.Settled) (u : Use) :
    t.decoder.byOffset.use? u = some (t.use u).decoder.byOffset := by
  cases u with
  | push chunk => exact Decoder.push?_byOffset h chunk
  | next => exact congrArg some (decoder_next t ▸ (Decoder.byOffset_next _).symm)
  | finish => exact congrArg some (Decoder.byOffset_finish _).symm

theorem foldlM_use?_byOffset {t : Tap} (h : t.decoder.Settled) (uses : List Use) :
    uses.foldlM OffsetDecoder.use? t.decoder.byOffset =
      some (uses.foldl use t).decoder.byOffset := by
  induction uses generalizing t with
  | nil => rfl
  | cons u uses ih =>
      rw [List.foldlM_cons, use?_byOffset h u]
      exact ih (settled_use h u)

/-- What waits between two calls: the bytes behind the last line feed, all of them searched, or
nothing once the decoder has stopped. -/
theorem buffer_foldl_use (uses : List Use) :
    (uses.foldl use new).decoder.buffer =
      if (uses.foldl use new).decoder.status = .reading
      then ⟨(unfinishedLine (pushedBytes uses)).reverse, []⟩ else Buffer.empty := by
  have hd := drained_foldl_use follows_new rfl uses
  rw [List.nil_append] at hd
  have hbuffer := congrArg Decoder.buffer hd
  have hstatus := congrArg Decoder.status hd
  by_cases hm : .finish ∈ uses
  · have hne := status_finish_ne ⟨[], Decoder.ofBytes (pushedBytes uses)⟩
    rw [if_pos hm] at hbuffer hstatus
    rw [if_neg (hstatus ▸ hne)]
    exact hbuffer.trans (Decoder.buffer_finish fun hr => if_neg hr)
  · rw [if_neg hm] at hbuffer hstatus
    have hs : (uses.foldl use new).decoder.status = (Transcript.ofBytes (pushedBytes uses)).status :=
      hstatus
    rw [hs]
    exact hbuffer

end Tap

namespace OffsetDecoder

/-- Whatever calls a decoder has seen, by offsets each of their accesses is within the bytes. What
is before the offset holds no line feed, between two calls and at the start of each turn of a push,
and the line that a turn splits off has one, at its end. Between two calls everything behind the
last line feed waits and has been searched, or nothing waits and the decoder has stopped. -/
theorem offsets_within (uses : List Use) :
    let d := (uses.foldl Tap.use Tap.new).decoder.byOffset
    uses.foldlM use? new = some d ∧
      d.buffer.IsSearched ∧
      (d.status = .reading → d.buffer.scanned = d.buffer.bytes.length ∧
        d.buffer.bytes = unfinishedLine (pushedBytes uses)) ∧
      (d.status ≠ .reading → d.buffer.scanned = 0 ∧ d.buffer.bytes = []) ∧
      ∀ chunk e, BeginsTurn d chunk e →
        (∃ f : Decoder, e = f.byOffset ∧ e.turn? = some (f.turn.1.byOffset, f.turn.2)) ∧
          e.buffer.IsSearched ∧
          ∃ fresh, e.buffer.unsearched? = some fresh ∧
            ∀ i, fresh.findIdx? (· = lineFeed) = some i → ∃ inside rest,
              e.buffer.split? (e.buffer.scanned + i + 1) = some (inside ++ [lineFeed], rest) ∧
                lineFeed ∉ inside := by
  intro d
  have hnew : Tap.new.decoder.Settled := Decoder.settled_new
  have hsettled := Tap.settled_foldl_use hnew uses
  have hbuffer : d.buffer = _ := congrArg Buffer.byOffset (Tap.buffer_foldl_use uses)
  refine ⟨Tap.foldlM_use?_byOffset hnew uses,
    Buffer.isSearched_byOffset hsettled.searched, ?_, ?_, ?_⟩
  · intro hr
    have hr' : (uses.foldl Tap.use Tap.new).decoder.status = .reading := hr
    rw [hbuffer, if_pos hr']
    simp [Buffer.byOffset, Buffer.bytes, Buffer.scanned]
  · intro hr
    have hr' : ¬ (uses.foldl Tap.use Tap.new).decoder.status = .reading := hr
    rw [hbuffer, if_neg hr']
    exact ⟨rfl, rfl⟩
  · intro chunk e he
    obtain ⟨f, rfl, hf⟩ := he.exists_byOffset hsettled
    have hsearched : f.byOffset.buffer.IsSearched := Buffer.isSearched_byOffset hf
    exact ⟨⟨f, rfl, Decoder.turn?_byOffset f⟩, hsearched, hsearched.accesses⟩

/-- A line in two pieces: the search for its end goes on behind the first one. -/
theorem offsets_within_cut :
    let bytesOf (text : String) : List UInt8 := Text.Utf8.encode text.toList
    let uses : List Use := [.push (bytesOf "event: put\nda"), .next]
    let d := (uses.foldl Tap.use Tap.new).decoder.byOffset
    let e : OffsetDecoder := { d with buffer := d.buffer.append (bytesOf "ta: 1\n\n") }
    let ended : List Use := uses ++ [.finish]
    let stopped := (ended.foldl Tap.use Tap.new).decoder.byOffset
    d.buffer.scanned = 2 ∧ d.buffer.bytes = bytesOf "da" ∧
      (∃ inside rest, e.buffer.split? (2 + 5 + 1) = some (inside ++ [lineFeed], rest) ∧
        lineFeed ∉ inside) ∧
      stopped.buffer.bytes = [] := by
  intro bytesOf uses d e ended stopped
  obtain ⟨-, -, hreading, -, hturns⟩ := offsets_within uses
  obtain ⟨-, -, -, hstopped, -⟩ := offsets_within ended
  have hr : d.status = .reading := by decide +kernel
  have hbytes : d.buffer.bytes = bytesOf "da" := (hreading hr).2
  have hscanned : d.buffer.scanned = 2 := (hreading hr).1.trans (congrArg List.length hbytes)
  refine ⟨hscanned, hbytes, ?_, (hstopped (by decide +kernel)).2⟩
  obtain ⟨-, -, fresh, hfresh, hline⟩ := hturns (bytesOf "ta: 1\n\n") e (.first hr)
  have hf : e.buffer.unsearched? = some (bytesOf "ta: 1\n\n") := by decide +kernel
  obtain rfl := Option.some.inj (hf.symm.trans hfresh)
  exact hscanned ▸ hline 5 (by decide +kernel)

end OffsetDecoder

end LiveTree.Stream
