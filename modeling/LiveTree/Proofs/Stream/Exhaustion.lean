import LiveTree.Proofs.Stream.Polling

namespace LiveTree.Stream.Source

variable {s t : Source} {body : List Piece}

def after (s : Source) : Nat → Source
  | 0 => s
  | k + 1 => s.poll.2.after k

theorem attempt_ended (h : s.attempt = (some .ended, t)) : t = s := by
  rw [attempt] at h
  cases hq : s.decoder.next with
  | mk item d =>
      rw [hq] at h
      cases item with
      | some i => cases (Prod.mk.inj h).1
      | none =>
          simp only at h
          split at h
          · exact (Prod.mk.inj h).2.symm
          · rw [advance] at h
            split at h
            · split at h <;> cases (Prod.mk.inj h).1
            · cases (Prod.mk.inj h).1
            · cases (Prod.mk.inj h).1

theorem pollFrom_ended (fuel : Nat) (hd : s.decoder.Settled) (hf : s.rank < fuel)
    (he : (s.pollFrom fuel).1 = .ended) : (s.pollFrom fuel).2.toCome = [] := by
  induction fuel generalizing s with
  | zero => omega
  | succ fuel ih =>
      have ha := attempt_spec hd
      rw [pollFrom] at he ⊢
      cases hs : s.attempt with
      | mk outcome t =>
          simp only [hs] at ha he ⊢
          obtain ⟨hd', -, ha⟩ := ha
          cases outcome with
          | none => exact ih hd' (by omega) he
          | some outcome =>
              simp only at he ha ⊢
              subst he
              rw [attempt_ended hs]
              exact ha

theorem poll_toCome (hd : s.decoder.Settled) (hc : s.leftOpen = false) :
    s.poll.1 = s.toCome.head?.elim .ended .item ∧ s.poll.2.toCome = s.toCome.tail := by
  obtain ⟨-, -, hl⟩ := poll_spec hd
  cases hp : s.poll.1 with
  | item i =>
      rw [hp] at hl
      rw [show s.toCome = i :: s.poll.2.toCome from hl]
      exact ⟨rfl, rfl⟩
  | ended =>
      have hf : s.rank < s.body.length + 3 := by
        rw [rank]
        split <;> omega
      rw [hp] at hl
      rw [show s.toCome = [] from hl]
      exact ⟨rfl, pollFrom_ended _ hd hf hp⟩
  | waiting =>
      rw [hp] at hl
      exact absurd hl.2 (by simp [hc])

theorem poll_after (k : Nat) (hd : s.decoder.Settled) (hc : s.leftOpen = false) :
    (s.after k).poll.1 = s.toCome[k]?.elim .ended .item := by
  induction k generalizing s with
  | zero => rw [after, (poll_toCome hd hc).1, List.head?_eq_getElem?]
  | succ k ih =>
      obtain ⟨hd', ho, -⟩ := poll_spec hd
      rw [after, ih hd' (ho.trans hc), (poll_toCome hd hc).2, List.getElem?_tail]

/-- How far a source has read a body that does not stay open. Whenever it asked for a piece, it had
got nothing but chunks before, and they had left the decoder reading. -/
structure Reads (body : List Piece) (s : Source) : Prop where
  closed : s.leftOpen = false
  asked : ∀ j < s.asked, ∃ chunks : List (List UInt8), chunks.length = j ∧
    chunks.map .ok <+: body ∧ (Transcript.ofBytes chunks.flatten).status = .reading
  reading : s.done = false → ∃ (chunks : List (List UInt8)) (taken : List Item),
    chunks.length = s.asked ∧ body = chunks.map .ok ++ s.body ∧
      (⟨taken, s.decoder⟩ : Tap).Follows chunks.flatten

theorem reads_ofBody (body : List Piece) : (ofBody body).Reads body :=
  ⟨rfl, nofun, fun _ => ⟨[], [], rfl, rfl, Tap.follows_new⟩⟩

theorem Reads.advance (h : s.Reads body) (ho : ¬ s.isOver = true) : s.advance.2.Reads body := by
  obtain ⟨rest, leftOpen, d, done, asked⟩ := s
  obtain ⟨rfl, hr⟩ := not_isOver ho
  obtain ⟨rfl, hasked, hreading⟩ := h
  obtain ⟨chunks, taken, hlength, hbody, hfollows⟩ := hreading rfl
  -- the piece asked for now comes after the chunks that the decoder has taken in
  have hnext : ∀ j < asked + 1, ∃ chunks : List (List UInt8), chunks.length = j ∧
      chunks.map .ok <+: body ∧ (Transcript.ofBytes chunks.flatten).status = .reading := by
    intro j hj
    obtain hj | rfl := Nat.lt_succ_iff_lt_or_eq.1 hj
    · exact hasked j hj
    · exact ⟨chunks, hlength, ⟨rest, hbody.symm⟩, hfollows.status_eq.symm.trans hr⟩
  cases rest with
  | nil => exact ⟨rfl, hnext, nofun⟩
  | cons piece rest =>
      cases piece with
      | error f => exact ⟨rfl, hnext, nofun⟩
      | ok chunk =>
          refine ⟨rfl, hnext, fun _ => ⟨chunks ++ [chunk], taken, ?_, ?_, ?_⟩⟩
          · rw [List.length_append, hlength]
            rfl
          · rw [hbody, List.map_append, List.append_assoc]
            rfl
          · rw [List.flatten_append, List.flatten_singleton]
            exact hfollows.push chunk

theorem Reads.attempt (h : s.Reads body) : s.attempt.2.Reads body := by
  rw [Source.attempt]
  cases hq : s.decoder.ready with
  | nil =>
      rw [Decoder.next, hq]
      simp only
      by_cases ho : s.isOver = true
      · rw [if_pos ho]
        exact h
      · rw [if_neg ho]
        exact h.advance ho
  | cons i rest =>
      have hnext : s.decoder.next = (some i, { s.decoder with ready := rest }) := by
        rw [Decoder.next, hq]
      rw [hnext]
      refine ⟨h.closed, h.asked, fun hdone => ?_⟩
      obtain ⟨chunks, taken, hlength, hbody, hfollows⟩ := h.reading hdone
      have hf := hfollows.next
      rw [Tap.use, hnext] at hf
      exact ⟨chunks, taken ++ [i], hlength, hbody, hf⟩

theorem Reads.pollFrom (fuel : Nat) (h : s.Reads body) : (s.pollFrom fuel).2.Reads body := by
  induction fuel generalizing s with
  | zero => exact h
  | succ fuel ih =>
      have ha := h.attempt
      rw [Source.pollFrom]
      cases hs : s.attempt with
      | mk outcome t =>
          rw [hs] at ha
          cases outcome with
          | some outcome => exact ha
          | none => exact ih ha

theorem Reads.after (k : Nat) (h : s.Reads body) : (s.after k).Reads body := by
  induction k generalizing s with
  | zero => exact h
  | succ k ih => exact ih (h.pollFrom _)

theorem push_new (bytes : List UInt8) :
    (Decoder.new.push bytes).ready = (Account.ofBytes bytes).items ∧
      (Decoder.new.push bytes).status = (Account.ofBytes bytes).status := by
  have hf := Tap.follows_new.push bytes
  obtain ⟨hi, hs⟩ := Transcript.ofBytes_eq bytes
  exact ⟨hf.given_eq.trans hi, hf.status_eq.trans hs⟩

/-- The polls of a body give the items that a decoder makes of the chunks before the first failure,
then that failure if the decoder still reads, and the end ever after. These items are what the
complete lines of the chunks say, and none but the last is final. The body is asked for a piece
only after nothing but chunks that leave a decoder reading, and so never again after a failure or
its end. -/
theorem polls_exhaust (body : List Piece) :
    let told := (splitBody body).1
    let d := Decoder.new.push told
    let results :=
      if d.status = .reading then d.ready ++ (splitBody body).2.toList.map .error else d.ready
    (∀ k, ((ofBody body).after k).poll.1 = results[k]?.elim .ended .item) ∧
      (d.ready = (Account.ofBytes told).items ∧ d.status = (Account.ofBytes told).status ∧
        d.ready.Pairwise fun i _ => isFinal i = false) ∧
      ∀ k j, j < ((ofBody body).after k).asked →
        ∃ chunks : List (List UInt8), chunks.length = j ∧ chunks.map .ok <+: body ∧
          (Decoder.new.push chunks.flatten).status = .reading := by
  intro told d results
  obtain ⟨hitems, hstatus⟩ := push_new told
  refine ⟨fun k => ?_, ⟨hitems, hstatus, ?_⟩, fun k j hj => ?_⟩
  · obtain ⟨hi, hs⟩ := Transcript.ofBytes_eq told
    have hresults : (ofBody body).toCome = results := by
      rw [toCome_ofBody, itemsOf]
      simp only [results, d, hitems, hstatus, ← hi, ← hs]
      rfl
    rw [poll_after k Decoder.settled_new rfl, hresults]
  · rw [hitems]
    exact (Account.ofLines_isFinal [] (completeLines told)).1
  · obtain ⟨chunks, hlength, hprefix, hreading⟩ := ((reads_ofBody body).after k).asked j hj
    refine ⟨chunks, hlength, hprefix, ?_⟩
    rw [(push_new _).2, ← (Transcript.ofBytes_eq _).2]
    exact hreading

end LiveTree.Stream.Source
