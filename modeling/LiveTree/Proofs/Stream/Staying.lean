import LiveTree.Proofs.Stream.Polling

namespace LiveTree.Stream

namespace Transcript

theorem addLine_cases (t : Transcript) (raw : List UInt8) :
    (t.addLine raw).items = t.items ∧ (t.addLine raw).status = t.status ∨
      ∃ i, (t.addLine raw).items = t.items ++ [i] ∧
        ((t.addLine raw).status ≠ .reading → isFinal i = true) := by
  by_cases hr : t.status ≠ .reading
  · rw [addLine_of_ne hr]
    exact .inl ⟨rfl, rfl⟩
  · rw [addLine, if_neg hr]
    cases Decoder.lineText raw with
    | error flaw => exact .inr ⟨_, rfl, fun _ => rfl⟩
    | ok line =>
        cases line with
        | cons c cs => exact .inl ⟨rfl, rfl⟩
        | nil =>
            simp only [closeRecord]
            split
            · exact .inl ⟨rfl, rfl⟩
            · cases t.pending.decode with
              | error f => exact .inr ⟨_, rfl, fun _ => rfl⟩
              | ok n =>
                  refine .inr ⟨.ok n, rfl, fun hs => ?_⟩
                  cases hn : n.isTerminal with
                  | true => exact (isFinal_ok n).trans hn
                  | false => simp [hn] at hs

theorem length_foldl_addLine_le (lines : List (List UInt8)) (t : Transcript) :
    (lines.foldl addLine t).items.length ≤ t.items.length + lines.length := by
  induction lines generalizing t with
  | nil => exact Nat.le_refl _
  | cons raw lines ih =>
      have hrest := ih (t.addLine raw)
      have hline : (t.addLine raw).items.length ≤ t.items.length + 1 := by
        obtain ⟨hi, -⟩ | ⟨i, hi, -⟩ := t.addLine_cases raw
        · rw [hi]
          exact Nat.le_succ _
        · simp [hi]
      rw [List.foldl_cons, List.length_cons]
      omega

def IsExplained (t : Transcript) : Prop :=
  t.status ≠ .reading → ∃ i ∈ t.items, isFinal i = true

theorem IsExplained.addLine {t : Transcript} (h : t.IsExplained) (raw : List UInt8) :
    (t.addLine raw).IsExplained := by
  intro hs
  obtain ⟨hi, ht⟩ | ⟨i, hi, hf⟩ := t.addLine_cases raw
  · rw [hi]
    exact h (ht ▸ hs)
  · exact ⟨i, by simp [hi], hf hs⟩

theorem IsExplained.foldl_addLine {t : Transcript} (h : t.IsExplained)
    (lines : List (List UInt8)) : (lines.foldl Transcript.addLine t).IsExplained := by
  induction lines generalizing t with
  | nil => exact h
  | cons raw lines ih => exact ih (h.addLine raw)

end Transcript

theorem length_completeLines_le (bytes : List UInt8) :
    (completeLines bytes).length ≤ bytes.length := by
  induction bytes with
  | nil => exact Nat.le_refl _
  | cons b bytes ih =>
      rw [completeLines]
      split
      · exact Nat.succ_le_succ ih
      · split
        · exact Nat.zero_le _
        · next line lines hl =>
            rw [hl] at ih
            exact Nat.le_succ_of_le ih

namespace Source

variable {s t : Source} {i : Item}

theorem length_foresee_le (d : Decoder) (bytes : List UInt8) :
    (foresee d bytes).items.length ≤ d.ready.length + d.buffer.bytes.length + bytes.length := by
  have hitems := Transcript.length_foldl_addLine_le (completeLines (d.buffer.bytes ++ bytes))
    d.transcript
  have hlines := length_completeLines_le (d.buffer.bytes ++ bytes)
  rw [Decoder.transcript_items] at hitems
  rw [List.length_append] at hlines
  rw [foresee]
  omega

/-- A source that is held open has something final to yield once it is over. -/
def Stays (s : Source) : Prop :=
  s.leftOpen = true → s.isOver = true → ∃ i ∈ s.toCome, isFinal i = true

theorem stays_of_not_isOver (h : ¬ s.isOver = true) : s.Stays :=
  fun _ ho => absurd ho h

theorem Stays.of_cons (h : s.Stays) (ht : s.toCome = i :: t.toCome)
    (hl : t.leftOpen = s.leftOpen) (ho : t.isOver = s.isOver) : isFinal i = true ∨ t.Stays := by
  cases hf : isFinal i with
  | true => exact .inl rfl
  | false =>
      refine .inr fun hopen hover => ?_
      obtain ⟨j, hj, hfinal⟩ := h (hl ▸ hopen) (ho ▸ hover)
      rw [ht] at hj
      obtain rfl | hj := List.mem_cons.1 hj
      · exact absurd hfinal (by simp [hf])
      · exact ⟨j, hj, hfinal⟩

/-- What an outcome tells of a source that stays: it goes on so behind an item that is not final, and
does not end. -/
def StaysBy (s : Source) : Poll → Source → Prop
  | .item i, t => isFinal i = true ∨ t.Stays
  | .ended, _ => s.leftOpen = false
  | .waiting, _ => True

def StaysAfter (s : Source) : Option Poll × Source → Prop
  | (some outcome, t) => s.StaysBy outcome t
  | (none, t) => t.Stays

theorem stays_push {leftOpen : Bool} {d : Decoder} {asked : Nat} (body : List Piece)
    (chunk : List UInt8) (hd : d.Settled) (hr : d.status = .reading) :
    (⟨body, leftOpen, d.push chunk, false, asked⟩ : Source).Stays := by
  intro _ ho
  have hs : (d.push chunk).transcript.status ≠ .reading := by simpa [isOver] using ho
  have hexplained : d.transcript.IsExplained := fun hn => absurd hr hn
  rw [toCome, if_pos ho]
  rw [Decoder.transcript_push hd] at hs
  have hfinal := hexplained.foldl_addLine _ hs
  rwa [← Decoder.transcript_push hd] at hfinal

theorem advance_stays (hd : s.decoder.Settled) (ho : ¬ s.isOver = true) :
    s.StaysAfter s.advance := by
  obtain ⟨body, leftOpen, d, done, asked⟩ := s
  obtain ⟨rfl, hr⟩ := not_isOver ho
  cases body with
  | nil =>
      cases leftOpen with
      | true => exact trivial
      | false => exact fun h => nomatch h
  | cons piece body =>
      cases piece with
      | error f => exact .inl rfl
      | ok chunk => exact stays_push body chunk hd hr

theorem attempt_stays (hd : s.decoder.Settled) (h : s.Stays) : s.StaysAfter s.attempt := by
  have ha := attempt_spec hd
  rw [attempt, Decoder.next] at ha ⊢
  cases hq : s.decoder.ready with
  | cons i rest =>
      rw [hq] at ha
      exact h.of_cons ha.2.2 rfl rfl
  | nil =>
      simp only
      by_cases ho : s.isOver = true
      · rw [if_pos ho]
        refine Bool.eq_false_iff.2 fun hopen => ?_
        obtain ⟨i, hi, -⟩ := h hopen ho
        rw [toCome, if_pos ho, hq] at hi
        exact List.not_mem_nil hi
      · rw [if_neg ho]
        exact advance_stays hd ho

theorem pollFrom_stays (fuel : Nat) (hd : s.decoder.Settled) (h : s.Stays) (hf : s.rank < fuel) :
    s.StaysBy (s.pollFrom fuel).1 (s.pollFrom fuel).2 := by
  induction fuel generalizing s with
  | zero => omega
  | succ fuel ih =>
      have hspec := attempt_spec hd
      have hstays := attempt_stays hd h
      rw [pollFrom]
      cases hs : s.attempt with
      | mk outcome t =>
          simp only [hs] at hspec hstays
          obtain ⟨hd', hl, hspec⟩ := hspec
          cases outcome with
          | some outcome => exact hstays
          | none =>
              have hrest := ih hd' hstays (by omega)
              cases hp : (t.pollFrom fuel).1 with
              | item | waiting =>
                  rw [hp] at hrest
                  exact hrest
              | ended =>
                  rw [hp] at hrest
                  exact hl.symm.trans hrest

theorem poll_stays (hd : s.decoder.Settled) (h : s.Stays) : s.StaysBy s.poll.1 s.poll.2 := by
  refine pollFrom_stays _ hd h ?_
  rw [rank]
  split <;> omega

end Source

end LiveTree.Stream
