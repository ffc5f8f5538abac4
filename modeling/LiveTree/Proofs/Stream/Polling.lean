import LiveTree.Proofs.Stream.Chunking
import LiveTree.Stream.Source

namespace LiveTree.Stream

/-- The items of a transcript, and the failure behind them if they did not end the stream. -/
def Transcript.itemsWith (t : Transcript) (f : Option Failure) : List Item :=
  if t.status = .reading then t.items ++ f.toList.map .error else t.items

theorem Transcript.itemsWith_of_ne {t : Transcript} (h : t.status ≠ .reading)
    (f : Option Failure) : t.itemsWith f = t.items := by
  rw [itemsWith, if_neg h]

theorem Transcript.itemsWith_behind (taken : List Item) (t : Transcript) (f : Option Failure) :
    (t.behind taken).itemsWith f = taken ++ t.itemsWith f := by
  rw [itemsWith, itemsWith, behind_status]
  by_cases h : t.status = .reading
  · rw [if_pos h, if_pos h, behind, List.append_assoc]
  · rw [if_neg h, if_neg h, behind]

namespace Source

def foresee (d : Decoder) (bytes : List UInt8) : Transcript :=
  (completeLines (d.buffer.bytes ++ bytes)).foldl Transcript.addLine d.transcript

def toCome (s : Source) : List Item :=
  if s.isOver then s.decoder.ready
  else (foresee s.decoder (splitBody s.body).1).itemsWith (splitBody s.body).2

theorem toCome_ofBody (body : List Piece) : (ofBody body).toCome = itemsOf body := rfl

theorem toCome_ofOpenBody (body : List Piece) : (ofOpenBody body).toCome = itemsOf body := rfl

theorem foresee_nil {d : Decoder} (h : d.Settled) : foresee d [] = d.transcript := by
  rw [foresee, List.append_nil, (completeLines_eq_nil_iff _).2 h.not_mem_bytes, List.foldl_nil]

theorem foresee_push {d : Decoder} (h : d.Settled) (chunk bytes : List UInt8) :
    foresee d (chunk ++ bytes) =
      if (d.push chunk).status = .reading then foresee (d.push chunk) bytes
      else (d.push chunk).transcript := by
  rw [foresee, ← List.append_assoc, completeLines_append, List.foldl_append,
    ← Decoder.transcript_push h]
  by_cases hr : (d.push chunk).status = .reading
  · rw [if_pos hr, foresee, Decoder.bytes_push h hr]
  · rw [if_neg hr, Transcript.foldl_addLine_of_ne (t := (d.push chunk).transcript) hr]

theorem foresee_next {d : Decoder} {i : Item} {rest : List Item} (h : d.ready = i :: rest)
    (bytes : List UInt8) :
    foresee d bytes = (foresee { d with ready := rest } bytes).behind [i] := by
  have ht : d.transcript = ({ d with ready := rest } : Decoder).transcript.behind [i] := by
    rw [Decoder.transcript, h]
    rfl
  rw [foresee, ht, Transcript.foldl_addLine_behind]
  rfl

def rank (s : Source) : Nat :=
  if s.isOver then 0 else s.body.length + 1

def Leaves (s : Source) : Poll → Source → Prop
  | .item i, t => s.toCome = i :: t.toCome
  | .ended, _ => s.toCome = []
  | .waiting, _ => s.toCome = [] ∧ s.leftOpen = true

theorem Leaves.of_eq {s t u : Source} {p : Poll} (h : t.Leaves p u) (hc : s.toCome = t.toCome)
    (ho : s.leftOpen = t.leftOpen) : s.Leaves p u := by
  cases p <;> simp only [Leaves, hc, ho] at h ⊢ <;> exact h

theorem not_isOver {s : Source} (h : ¬ s.isOver = true) :
    s.done = false ∧ s.decoder.status = .reading := by
  simpa [isOver] using h

theorem advance_spec {s : Source} (hd : s.decoder.Settled) (ho : ¬ s.isOver = true)
    (hq : s.decoder.ready = []) :
    s.advance.2.decoder.Settled ∧ s.advance.2.leftOpen = s.leftOpen ∧
      match s.advance with
      | (some outcome, t) => s.Leaves outcome t
      | (none, t) => s.toCome = t.toCome ∧ t.rank < s.rank := by
  obtain ⟨body, leftOpen, d, done, asked⟩ := s
  obtain ⟨rfl, hr⟩ := not_isOver ho
  simp only at hd hr hq
  have hsilent : (⟨[], leftOpen, d, false, asked⟩ : Source).toCome = [] := by
    simp [toCome, isOver, hr, splitBody, foresee_nil hd, Transcript.itemsWith, hq]
  cases body with
  | nil =>
      cases leftOpen with
      | true => exact ⟨hd, rfl, hsilent, rfl⟩
      | false =>
          refine ⟨hd.finish, rfl, ?_, ?_⟩
          · rw [hsilent]
            simp [toCome, isOver, Decoder.finish, hr, hq]
          · simp [rank, isOver, hr]
  | cons piece body =>
      cases piece with
      | error f =>
          refine ⟨hd, rfl, ?_⟩
          simp [advance, Leaves, toCome, isOver, hr, splitBody, foresee_nil hd,
            Transcript.itemsWith, hq]
      | ok chunk =>
          have ha : advance ⟨.ok chunk :: body, leftOpen, d, false, asked⟩ =
              (none, ⟨body, leftOpen, d.push chunk, false, asked + 1⟩) := rfl
          rw [ha]
          refine ⟨hd.push chunk, rfl, ?_, ?_⟩
          · rw [toCome, if_neg ho, splitBody, foresee_push hd]
            by_cases hp : (d.push chunk).status = .reading
            · rw [if_pos hp, toCome, if_neg (by simp [isOver, hp])]
            · rw [if_neg hp, toCome, if_pos (by simp [isOver, hp]), Transcript.itemsWith_of_ne hp]
              rfl
          · rw [rank, rank, if_neg ho]
            split
            · exact Nat.succ_pos _
            · exact Nat.lt_succ_self _

theorem attempt_spec {s : Source} (hd : s.decoder.Settled) :
    s.attempt.2.decoder.Settled ∧ s.attempt.2.leftOpen = s.leftOpen ∧
      match s.attempt with
      | (some outcome, t) => s.Leaves outcome t
      | (none, t) => s.toCome = t.toCome ∧ t.rank < s.rank := by
  rw [attempt, Decoder.next]
  cases hq : s.decoder.ready with
  | cons i rest =>
      refine ⟨⟨hd.fresh, hd.searched⟩, rfl, ?_⟩
      by_cases ho : s.isOver = true
      · have ho' : ({ s with decoder := { s.decoder with ready := rest } } : Source).isOver = true :=
          ho
        simp only [Leaves]
        rw [toCome, if_pos ho, toCome, if_pos ho', hq]
      · have ho' : ¬ ({ s with decoder := { s.decoder with ready := rest } } : Source).isOver = true :=
          ho
        simp only [Leaves]
        rw [toCome, if_neg ho, toCome, if_neg ho', foresee_next hq, Transcript.itemsWith_behind]
        rfl
  | nil =>
      simp only
      by_cases ho : s.isOver = true
      · rw [if_pos ho]
        refine ⟨hd, rfl, ?_⟩
        simp only [Leaves]
        rw [toCome, if_pos ho, hq]
      · rw [if_neg ho]
        exact advance_spec hd ho hq

theorem pollFrom_spec (fuel : Nat) {s : Source} (hd : s.decoder.Settled) (hf : s.rank < fuel) :
    (s.pollFrom fuel).2.decoder.Settled ∧ (s.pollFrom fuel).2.leftOpen = s.leftOpen ∧
      s.Leaves (s.pollFrom fuel).1 (s.pollFrom fuel).2 := by
  induction fuel generalizing s with
  | zero => omega
  | succ fuel ih =>
      have ha := attempt_spec hd
      rw [pollFrom]
      cases hs : s.attempt with
      | mk outcome t =>
          simp only [hs] at ha
          obtain ⟨hd', ho, ha⟩ := ha
          cases outcome with
          | some outcome => exact ⟨hd', ho, ha⟩
          | none =>
              obtain ⟨hd'', ho', hl⟩ := ih hd' (by omega)
              exact ⟨hd'', ho'.trans ho, hl.of_eq ha.1 ho.symm⟩

theorem poll_spec {s : Source} (hd : s.decoder.Settled) :
    s.poll.2.decoder.Settled ∧ s.poll.2.leftOpen = s.leftOpen ∧ s.Leaves s.poll.1 s.poll.2 := by
  refine pollFrom_spec _ hd ?_
  rw [rank]
  split <;> omega

end Source

end LiveTree.Stream
