import LiveTree.Proofs.Stream.Noise
import LiveTree.Proofs.Stream.Staying

namespace LiveTree.Stream

theorem Account.ofLines_status (opened : List (List Char)) (lines : List (List UInt8)) :
    ((ofLines opened lines).status = .failed ↔
        ∃ f, .error f ∈ (ofLines opened lines).items) ∧
      ((ofLines opened lines).status = .finished ↔
        ∃ n : Notice, n.isTerminal = true ∧ .ok n ∈ (ofLines opened lines).items) := by
  induction lines generalizing opened with
  | nil => simp [ofLines, silent]
  | cons raw rest ih =>
      rw [ofLines]
      split
      · simp [failed]
      · simp only
        split
        · exact ih _
        · split
          · exact ih []
          · split
            · simp [failed]
            · next n _ =>
                rw [isFinal_ok]
                by_cases hn : n.isTerminal = true
                · simp [hn, finished]
                · rw [if_neg hn]
                  obtain ⟨hfailed, hfinished⟩ := ih []
                  constructor
                  · simpa [after] using hfailed
                  · refine hfinished.trans (exists_congr fun m => and_congr_right fun hm => ?_)
                    have hne : m ≠ n := fun he => hn (he ▸ hm)
                    simp [after, hne]

namespace Transcript

theorem items_addLine (t : Transcript) (raw : List UInt8) : t.items <+: (t.addLine raw).items := by
  rcases t.addLine_cases raw with ⟨hi, -⟩ | ⟨i, hi, -⟩
  · exact hi.symm ▸ List.prefix_rfl
  · rw [hi]
    apply List.prefix_append

theorem items_foldl_addLine (lines : List (List UInt8)) (t : Transcript) :
    t.items <+: (lines.foldl addLine t).items := by
  induction lines generalizing t with
  | nil => exact List.prefix_rfl
  | cons raw lines ih => exact (t.items_addLine raw).trans (ih _)

theorem items_of_texts {lines : List (List UInt8)}
    (h : ∀ raw ∈ lines, ∃ line, Decoder.lineText raw = .ok line ∧ line ≠ []) (t : Transcript) :
    (lines.foldl addLine t).items = t.items := by
  induction lines generalizing t with
  | nil => rfl
  | cons raw lines ih =>
      obtain ⟨⟨line, hline, hne⟩, hlines⟩ := List.forall_mem_cons.1 h
      rw [List.foldl_cons, ih hlines]
      by_cases ht : t.status = .reading
      · rw [addLine_ok ht hline hne]
      · rw [addLine_of_ne ht]

end Transcript

theorem pushedBytes_prefix (uses more : List Use) :
    pushedBytes uses <+: pushedBytes (uses ++ more) := by
  induction uses with
  | nil => exact List.nil_prefix
  | cons u uses ih =>
      cases u with
      | push chunk => exact (List.prefix_append_right_inj chunk).2 ih
      | next => exact ih
      | finish => exact List.prefix_rfl

theorem pushedBytes_finish (before after : List Use) :
    pushedBytes (before ++ .finish :: after) = pushedBytes before := by
  induction before with
  | nil => rfl
  | cons u before ih => cases u <;> simp [pushedBytes, ih]

namespace Tap

theorem given_uses (uses : List Use) :
    (uses.foldl use new).given = (Transcript.ofBytes (pushedBytes uses)).items :=
  (foldl_use follows_new uses).1

theorem given_prefix (uses more : List Use) :
    (uses.foldl use new).given <+: (more.foldl use (uses.foldl use new)).given := by
  rw [← List.foldl_append, given_uses, given_uses]
  obtain ⟨rest, hrest⟩ := pushedBytes_prefix uses more
  rw [← hrest, Transcript.ofBytes_append]
  apply Transcript.items_foldl_addLine

theorem status_uses (uses : List Use) :
    (uses.foldl use new).status =
      if .finish ∈ uses then (Account.ofBytes (pushedBytes uses)).status.close
      else (Account.ofBytes (pushedBytes uses)).status := by
  rw [← (Transcript.ofBytes_eq (pushedBytes uses)).2]
  exact (foldl_use follows_new uses).2

/-- An end of the input counts if the stream was still being read, and only the first one can. -/
theorem finishes_iff (uses : List Use) :
    (∃ before after, uses = before ++ .finish :: after ∧
        (before.foldl use new).status = .reading) ↔
      .finish ∈ uses ∧ (Account.ofBytes (pushedBytes uses)).status = .reading := by
  constructor
  · rintro ⟨before, after, rfl, hr⟩
    have hfirst : .finish ∉ before := by
      intro hm
      rw [status_uses, if_pos hm] at hr
      cases hs : (Account.ofBytes (pushedBytes before)).status <;> simp [hs, Status.close] at hr
    rw [status_uses, if_neg hfirst] at hr
    rw [pushedBytes_finish]
    exact ⟨by simp, hr⟩
  · rintro ⟨hm, hr⟩
    obtain ⟨before, after, rfl, hfirst⟩ := List.eq_append_cons_of_mem hm
    rw [pushedBytes_finish] at hr
    refine ⟨before, after, rfl, ?_⟩
    rw [status_uses, if_neg hfirst, hr]

theorem given_eq_items (uses : List Use) :
    (uses.foldl use new).given = (Account.ofBytes (pushedBytes uses)).items :=
  (given_uses uses).trans (Transcript.ofBytes_eq _).1

theorem failed_iff (uses : List Use) :
    (uses.foldl use new).status = .failed ↔ ∃ f, .error f ∈ (uses.foldl use new).given := by
  have hfailed : (Account.ofBytes (pushedBytes uses)).status = .failed ↔ _ :=
    (Account.ofLines_status [] _).1
  rw [given_eq_items, status_uses]
  refine Iff.trans ?_ hfailed
  split
  · cases (Account.ofBytes (pushedBytes uses)).status <;> simp [Status.close]
  · rfl

theorem finished_iff (uses : List Use) :
    (uses.foldl use new).status = .finished ↔
      (∃ n : Notice, n.isTerminal = true ∧ .ok n ∈ (uses.foldl use new).given) ∨
        ∃ before after, uses = before ++ .finish :: after ∧
          (before.foldl use new).status = .reading := by
  have hfinished : (Account.ofBytes (pushedBytes uses)).status = .finished ↔ _ :=
    (Account.ofLines_status [] _).2
  rw [given_eq_items, status_uses, finishes_iff]
  refine Iff.trans ?_ (or_congr_left hfinished)
  by_cases hm : .finish ∈ uses
  · rw [if_pos hm]
    cases (Account.ofBytes (pushedBytes uses)).status <;> simp [Status.close, hm]
  · simp [hm]

theorem taken_finish (t : Tap) :
    (t.use .finish).taken = t.taken ∧ (t.use .finish).decoder.ready = t.decoder.ready := by
  rw [use, Decoder.finish]
  constructor
  · rfl
  · split <;> rfl

/-- A decoder gives out one final item at most, and none behind it. It has failed exactly if that is
a failure; it is finished exactly if that is a terminal notice or the input was ended while it was
read. The end of the input gives nothing out, and no more do the lines behind the last blank one.
Whoever has stopped reading does not begin again: only the queue is still emptied, in its order. -/
theorem stops_for_good (uses : List Use) :
    let t := uses.foldl use new
    t.given.Pairwise (fun i _ => isFinal i = false) ∧
      (∀ more : List Use, t.given <+: (more.foldl use t).given) ∧
      (t.status = .failed ↔ ∃ f, .error f ∈ t.given) ∧
      (t.status = .finished ↔ (∃ n : Notice, n.isTerminal = true ∧ .ok n ∈ t.given) ∨
        ∃ before after, uses = before ++ .finish :: after ∧
          (before.foldl use new).status = .reading) ∧
      (∀ more : List Use, (more.foldl use t).status = .reading → t.status = .reading) ∧
      ((t.use .finish).taken = t.taken ∧ (t.use .finish).decoder.ready = t.decoder.ready) ∧
      (∀ before opened : List UInt8, pushedBytes uses = before ++ opened →
        unfinishedLine before = [] →
          (∀ raw ∈ completeLines opened, ∃ line, Decoder.lineText raw = .ok line ∧ line ≠ []) →
            t.given = (Account.ofBytes before).items) ∧
      (t.status ≠ .reading → ∀ more : List Use,
        more.foldl use t = ⟨t.taken ++ t.decoder.ready.take (more.count .next),
          { t.decoder with ready := t.decoder.ready.drop (more.count .next) }⟩) := by
  intro t
  have hgiven : t.given = (Account.ofBytes (pushedBytes uses)).items := given_eq_items uses
  refine ⟨?_, given_prefix uses, failed_iff uses, finished_iff uses, ?_, taken_finish t, ?_,
    fun h => foldl_use_stopped h⟩
  · rw [hgiven]
    exact (Account.ofLines_isFinal _ _).1
  · intro more hr
    by_cases hs : t.status = .reading
    · exact hs
    · rwa [(foldl_use_of_ne hs more).2] at hr
  · intro before opened hbytes hend htexts
    have hlines : t.given = (Transcript.ofBytes (before ++ opened)).items :=
      hbytes ▸ given_uses uses
    rw [hlines, Transcript.ofBytes_append, hend, List.nil_append,
      Transcript.items_of_texts htexts, (Transcript.ofBytes_eq before).1]

/-- A cancellation whose record is open says nothing, whatever comes next; closed by its blank line
it stops the decoder, and a second one behind it is not told. -/
theorem stops_for_good_cancelled :
    let bytesOf (text : String) : List UInt8 := Text.Utf8.encode text.toList
    let before := bytesOf "event: keep-alive\n\n"
    let opened := bytesOf "event: cancel\n"
    let uses : List Use := [.push before, .push opened]
    let cancelled : List Use := uses ++ [.push (bytesOf "\nevent: cancel\n\n")]
    let more : List Use := [.next, .push opened, .next, .finish, .next]
    (uses.foldl use new).status = .reading ∧
      (uses.foldl use new).given = (Account.ofBytes before).items ∧
      (cancelled.foldl use new).status ≠ .reading ∧
      (more.foldl use (cancelled.foldl use new)).taken =
        (cancelled.foldl use new).taken ++ (cancelled.foldl use new).decoder.ready.take 3 := by
  intro bytesOf before opened uses cancelled more
  obtain ⟨-, -, -, -, hreading, -, hopened, -⟩ := stops_for_good uses
  obtain ⟨-, -, -, -, -, -, -, hstopped⟩ := stops_for_good cancelled
  have hstop : (cancelled.foldl use new).status ≠ .reading := by decide +kernel
  have htexts : ∀ raw ∈ completeLines opened, ∃ line,
      Decoder.lineText raw = .ok line ∧ line ≠ [] := by
    have hline : completeLines opened = [opened] := by decide +kernel
    intro raw hraw
    rw [hline, List.mem_singleton] at hraw
    rw [hraw]
    exact ⟨"event: cancel".toList, rfl, by decide⟩
  refine ⟨hreading [.next] (by decide +kernel), ?_, hstop, ?_⟩
  · exact hopened before opened (by simp [uses, pushedBytes]) (by decide +kernel) htexts
  · have hcount : more.count .next = 3 := by decide +kernel
    rw [hstopped hstop, hcount]

end Tap

end LiveTree.Stream
