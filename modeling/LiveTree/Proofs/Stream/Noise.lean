import Mathlib.Logic.Relation
import LiveTree.Proofs.Stream.Chunking
import LiveTree.Proofs.Stream.LineText

namespace LiveTree.Stream

open Text.Utf8 (encode)

/-- The name of the field of a line: the text before the first colon, or else all of it. -/
def fieldName (line : List Char) : List Char :=
  line.takeWhile (· ≠ ':')

def IsField (line : List Char) : Prop :=
  fieldName line = eventField ∨ fieldName line = dataField

instance (line : List Char) : Decidable (IsField line) :=
  inferInstanceAs (Decidable (_ ∨ _))

/-- A line, less what ends it, that says nothing: a comment or a field of another name. -/
structure IsSilent (line : List Char) : Prop where
  nonempty : line ≠ []
  whole : '\n' ∉ line ∧ line.getLast? ≠ some '\r'
  other : line.head? = some ':' ∨ ¬ IsField line

/-- No field of a record has been seen since the last blank line. -/
def Quiet (lines : List (List UInt8)) : Prop :=
  ∀ before raw after line, lines = before ++ raw :: after → Decoder.lineText raw = .ok line →
    IsField line → ∃ blank ∈ after, Decoder.lineText blank = .ok []

/-- One addition to a stream that says nothing: carriage returns before a line feed, or a line of
its own at the start of another. -/
inductive Adds : List UInt8 → List UInt8 → Prop
  | returns (before after : List UInt8) (n : Nat) :
      Adds (before ++ lineFeed :: after) (before ++ (lineEnd n ++ after))
  | silent {before : List UInt8} {line : List Char} (hb : unfinishedLine before = [])
      (h : IsSilent line) (after : List UInt8) (n : Nat) :
      Adds (before ++ after) (before ++ (encode line ++ (lineEnd n ++ after)))
  | blank {before : List UInt8} (hb : unfinishedLine before = [])
      (h : Quiet (completeLines before)) (after : List UInt8) (n : Nat) :
      Adds (before ++ after) (before ++ (lineEnd n ++ after))

section Lines

variable {line : List Char}

theorem not_isField_of_comment (h : line.head? = some ':') : ¬ IsField line := by
  cases line with
  | nil => exact nomatch h
  | cons c line =>
      obtain rfl := Option.some.inj h
      simp [IsField, fieldName, eventField, dataField]

theorem IsSilent.not_isField (h : IsSilent line) : ¬ IsField line :=
  h.other.elim not_isField_of_comment id

theorem pushLine_of_not_isField (h : ¬ IsField line) (r : Pending) : r.pushLine line = r := by
  obtain ⟨he, hd⟩ := not_or.1 h
  exact (if_neg he).trans (if_neg hd)

theorem completeLines_lineEnd {inside : List UInt8} (h : lineFeed ∉ inside) (n : Nat)
    (rest : List UInt8) : completeLines (inside ++ (lineEnd n ++ rest)) =
      (inside ++ lineEnd n) :: completeLines rest := by
  have hreturns : lineFeed ∉ inside ++ List.replicate n carriageReturn := by
    refine List.not_mem_append h fun hm => ?_
    exact absurd (List.eq_of_mem_replicate hm) (by decide)
  have hline := completeLines_line hreturns rest
  simpa [lineEnd] using hline

theorem lineText_silent (h : IsSilent line) (n : Nat) :
    Decoder.lineText (encode line ++ lineEnd n) = .ok line := by
  have hlast : ∀ c, line.getLast? = some c → Decoder.isLineEnd c = false := by
    intro c hc
    have hfeed : c ≠ '\n' := fun he => h.whole.1 (he ▸ List.mem_of_getLast? hc)
    have hreturn : c ≠ '\r' := fun he => h.whole.2 (he ▸ hc)
    simp [Decoder.isLineEnd, hfeed, hreturn]
  exact (lineText_lineEnd (encode line) n).trans (lineText_encode hlast)

theorem lineText_blank (n : Nat) : Decoder.lineText (lineEnd n) = .ok [] :=
  (lineText_lineEnd [] n).trans rfl

end Lines

namespace Transcript

variable {t : Transcript} {raw : List UInt8} {line : List Char}

theorem addLine_congr {other : List UInt8} (h : Decoder.lineText raw = Decoder.lineText other)
    (t : Transcript) : t.addLine raw = t.addLine other := by
  rw [addLine, addLine, h]

theorem addLine_ok (ht : t.status = .reading) (h : Decoder.lineText raw = .ok line)
    (hne : line ≠ []) : t.addLine raw = { t with pending := t.pending.pushLine line } := by
  rw [addLine, if_neg (fun hn => hn ht), h]
  cases line with
  | nil => exact absurd rfl hne
  | cons c line => rfl

theorem addLine_of_not_isField (h : Decoder.lineText raw = .ok line) (hne : line ≠ [])
    (hf : ¬ IsField line) : t.addLine raw = t := by
  by_cases ht : t.status = .reading
  · rw [addLine_ok ht h hne, pushLine_of_not_isField hf]
  · exact addLine_of_ne ht raw

theorem addLine_blank (ht : t.status = .reading) (h : Decoder.lineText raw = .ok []) :
    t.addLine raw = t.closeRecord := by
  rw [addLine, if_neg (fun hn => hn ht), h]

theorem closeRecord_of_empty (h : t.pending = Pending.empty) : t.closeRecord = t := by
  rw [closeRecord, h]
  rfl

theorem pending_closeRecord (t : Transcript) : t.closeRecord.pending = Pending.empty := by
  rw [closeRecord]
  split
  · next h => exact (Pending.isEmpty_iff _).1 h
  · cases t.pending.decode <;> rfl

theorem reading_of_foldl {lines : List (List UInt8)}
    (h : (lines.foldl addLine t).status = .reading) : t.status = .reading := by
  by_cases ht : t.status = .reading
  · exact ht
  · rwa [foldl_addLine_of_ne ht] at h

theorem pending_of_quiet {lines : List (List UInt8)} (hq : Quiet lines)
    (ht : t.pending = Pending.empty ∨ ∃ blank ∈ lines, Decoder.lineText blank = .ok [])
    (hr : (lines.foldl addLine t).status = .reading) :
    (lines.foldl addLine t).pending = Pending.empty := by
  induction lines generalizing t with
  | nil => exact ht.resolve_right (by simp)
  | cons raw lines ih =>
      have hrest : Quiet lines := by
        rintro before field after line rfl
        exact hq (raw :: before) field after line rfl
      refine ih hrest ?_ hr
      have hstart : t.status = .reading := reading_of_foldl hr
      have hreading : (t.addLine raw).status = .reading := reading_of_foldl hr
      cases hl : Decoder.lineText raw with
      | error flaw =>
          rw [addLine, if_neg (fun hn => hn hstart), hl] at hreading
          cases hreading
      | ok line =>
          by_cases hne : line = []
          · subst hne
            exact .inl (addLine_blank hstart hl ▸ pending_closeRecord t)
          by_cases hf : IsField line
          · exact .inr (hq [] raw lines line rfl hl hf)
          · rw [addLine_of_not_isField hl hne hf]
            refine ht.imp_right ?_
            rintro ⟨blank, hm, hb⟩
            obtain rfl | hm := List.mem_cons.1 hm
            · exact absurd (Except.ok.inj (hl.symm.trans hb)) hne
            · exact ⟨blank, hm, hb⟩

theorem ofBytes_adds {bytes noisy : List UInt8} (h : Adds bytes noisy) :
    ofBytes noisy = ofBytes bytes := by
  cases h with
  | returns before after n =>
      have hline := lineFeed_not_mem_unfinishedLine before
      rw [ofBytes_append, ofBytes_append, completeLines_lineEnd hline, completeLines_line hline,
        List.foldl_cons, List.foldl_cons, addLine_congr (lineText_lineEnd _ n)]
  | silent hb h after n =>
      rw [ofBytes_append, ofBytes_append, hb, List.nil_append, List.nil_append,
        completeLines_lineEnd (lineFeed_not_mem_encode h.whole.1), List.foldl_cons,
        addLine_of_not_isField (lineText_silent h n) h.nonempty h.not_isField]
  | @blank before hb h after n =>
      have hline : completeLines (lineEnd n ++ after) = lineEnd n :: completeLines after :=
        completeLines_lineEnd List.not_mem_nil n after
      have hsame : (ofBytes before).addLine (lineEnd n) = ofBytes before := by
        by_cases hr : (ofBytes before).status = .reading
        · rw [addLine_blank hr (lineText_blank n)]
          exact closeRecord_of_empty (pending_of_quiet h (.inl rfl) hr)
        · exact addLine_of_ne hr _
      rw [ofBytes_append, ofBytes_append, hb, List.nil_append, List.nil_append, hline,
        List.foldl_cons, hsame]

end Transcript

theorem unfinishedLine_adds {bytes noisy : List UInt8} (h : Adds bytes noisy) :
    unfinishedLine noisy = unfinishedLine bytes := by
  have hend (before : List UInt8) (n : Nat) (after : List UInt8) :
      unfinishedLine (before ++ (lineEnd n ++ after)) = unfinishedLine after := by
    have hline := unfinishedLine_line (before ++ List.replicate n carriageReturn) after
    simpa [lineEnd] using hline
  cases h with
  | returns before after n => rw [hend, unfinishedLine_line]
  | @silent before line hb h after n =>
      rw [← List.append_assoc, hend, unfinishedLine_append before, hb, List.nil_append]
  | @blank before hb h after n => rw [hend, unfinishedLine_append before, hb, List.nil_append]

theorem Decoder.ofBytes_noise {bytes noisy : List UInt8}
    (h : Relation.ReflTransGen Adds bytes noisy) :
    Transcript.ofBytes noisy = Transcript.ofBytes bytes ∧ ofBytes noisy = ofBytes bytes := by
  induction h with
  | refl => exact ⟨rfl, rfl⟩
  | tail _ hadds ih =>
      obtain ⟨ht, hd⟩ := ih
      refine ⟨(Transcript.ofBytes_adds hadds).trans ht, Eq.trans ?_ hd⟩
      rw [ofBytes, ofBytes, Transcript.ofBytes_adds hadds, unfinishedLine_adds hadds]

theorem quiet_concat (lines : List (List UInt8)) {blank : List UInt8}
    (h : Decoder.lineText blank = .ok []) : Quiet (lines ++ [blank]) := by
  intro before raw after line hlines hraw hf
  obtain rfl | ⟨after, last, rfl⟩ := List.eq_nil_or_concat after
  · obtain ⟨-, hlast⟩ := List.append_inj' hlines rfl
    obtain rfl := (List.cons.inj hlast).1
    obtain rfl := Except.ok.inj (h.symm.trans hraw)
    exact absurd hf (by decide)
  · have hlines : lines ++ [blank] = (before ++ raw :: after) ++ [last] := by simpa using hlines
    obtain ⟨-, hlast⟩ := List.append_inj' hlines rfl
    exact ⟨blank, by simp [(List.cons.inj hlast).1], h⟩

namespace Tap

/-- Noise does not show in what a decoder gives out, nor in what it remembers, however the bytes
are cut into pieces and whenever items are taken. -/
theorem uses_ignore_noise {uses others : List Use}
    (h : Relation.ReflTransGen Adds (pushedBytes uses) (pushedBytes others))
    (hf : .finish ∈ others ↔ .finish ∈ uses) :
    (others.foldl use new).given = (uses.foldl use new).given ∧
      (others.foldl use new).decoder.drained = (uses.foldl use new).decoder.drained := by
  obtain ⟨htranscript, hdecoder⟩ := Decoder.ofBytes_noise h
  have hgiven := (foldl_use follows_new others).1
  have hdrained := drained_foldl_use follows_new rfl others
  simp only [List.nil_append, htranscript, hdecoder, hf] at hgiven hdrained
  refine ⟨hgiven.trans ?_, hdrained.trans ?_⟩
  · exact (foldl_use follows_new uses).1.symm
  · exact (drained_foldl_use follows_new rfl uses).symm

/-- Behind a record a blank line, before it a comment, and two carriage returns before a line feed
that cuts a character off. -/
theorem uses_ignore_noise_flawed :
    let bytesOf (text : String) : List UInt8 := encode text.toList
    let uses : List Use :=
      [.push (bytesOf "event: keep-alive\n\n"), .next, .push [0xE2, 0x82, 0x0A]]
    let others : List Use :=
      [.push (bytesOf ":\nevent: keep-alive\n\n\r\n"), .push [0xE2, 0x82, 0x0D, 0x0D, 0x0A]]
    (others.foldl use new).given = (uses.foldl use new).given ∧
      (others.foldl use new).decoder.drained = (uses.foldl use new).decoder.drained := by
  intro bytesOf uses others
  let record := bytesOf "event: keep-alive\n\n"
  let flaw : List UInt8 := [0xE2, 0x82]
  have hreturns : Adds (record ++ flaw ++ [lineFeed]) (record ++ flaw ++ (lineEnd 2 ++ [])) :=
    .returns (record ++ flaw) [] 2
  have hquiet : Quiet (completeLines record) := by
    have hlines : completeLines record = [bytesOf "event: keep-alive\n"] ++ [[lineFeed]] := by
      decide +kernel
    rw [hlines]
    exact quiet_concat _ rfl
  have hblank : Adds (record ++ (flaw ++ lineEnd 2))
      (record ++ (lineEnd 1 ++ (flaw ++ lineEnd 2))) := .blank (by decide +kernel) hquiet _ 1
  have hcomment : IsSilent [':'] := ⟨by decide, by decide, .inl rfl⟩
  have hsilent : Adds ([] ++ (record ++ (lineEnd 1 ++ (flaw ++ lineEnd 2))))
      ([] ++ (encode [':'] ++ (lineEnd 0 ++ (record ++ (lineEnd 1 ++ (flaw ++ lineEnd 2)))))) :=
    .silent rfl hcomment _ 0
  have hnoise : Relation.ReflTransGen Adds (pushedBytes uses) (pushedBytes others) := by
    have hbytes : pushedBytes uses = record ++ flaw ++ [lineFeed] := by decide +kernel
    have hnoisy : pushedBytes others =
        [] ++ (encode [':'] ++ (lineEnd 0 ++ (record ++ (lineEnd 1 ++ (flaw ++ lineEnd 2))))) := by
      decide +kernel
    rw [hbytes, hnoisy]
    rw [List.append_nil, List.append_assoc record flaw (lineEnd 2)] at hreturns
    exact .tail (.tail (.single hreturns) hblank) hsilent
  exact uses_ignore_noise hnoise (by simp [uses, others])

end Tap

end LiveTree.Stream
