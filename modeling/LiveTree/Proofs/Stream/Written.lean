import LiveTree.Stream.Wire
import LiveTree.Proofs.Event.Rereading
import LiveTree.Proofs.Stream.Chunking
import LiveTree.Proofs.Stream.LineText

namespace LiveTree

open Text.Utf8 (encode)
open Json (Portable isGap noGap isPlain)

namespace Text

theorem mem_of_mem_splitOn {sep c : Char} {cs part : List Char} (h : part ∈ splitOn sep cs)
    (hc : c ∈ part) : c ∈ cs := by
  induction cs generalizing part with
  | nil => simp_all [splitOn]
  | cons d cs ih =>
      simp only [splitOn] at h
      split at h
      · next hn => exact absurd hn (splitOn_ne_nil sep cs)
      · next p parts hp =>
          rw [hp] at ih
          split at h
          · rcases List.mem_cons.1 h with rfl | h
            · simp at hc
            · exact List.mem_cons_of_mem _ (ih h hc)
          · rcases List.mem_cons.1 h with rfl | h
            · rcases List.mem_cons.1 hc with rfl | hc
              · exact List.mem_cons_self ..
              · exact List.mem_cons_of_mem _ (ih (List.mem_cons_self ..) hc)
            · exact List.mem_cons_of_mem _ (ih (List.mem_cons_of_mem _ h) hc)

end Text

namespace Stream

namespace Transcript

def addText (t : Transcript) (cs : List Char) : Transcript :=
  (completeLines (encode cs)).foldl addLine t

theorem addText_nil (t : Transcript) : t.addText [] = t := rfl

section Lines

variable {t : Transcript} {line : List Char}

theorem addText_line (h : IsLine line) (cs : List Char) :
    t.addText (line ++ '\n' :: cs) = (t.addLine (encode line ++ [lineFeed])).addText cs := by
  rw [addText, encode_line, completeLines_line (lineFeed_not_mem_encode h.not_mem), List.foldl_cons]
  rfl

theorem addText_field (ht : t.status = .reading) (h : IsLine line) (hne : line ≠ [])
    (cs : List Char) : t.addText (line ++ '\n' :: cs) =
      ({ t with pending := t.pending.pushLine line } : Transcript).addText cs := by
  have hlast : ∀ c, line.getLast? = some c → Decoder.isLineEnd c = false :=
    fun c hc => h c (List.mem_of_getLast? hc)
  rw [addText_line h, addLine, if_neg (fun hn => hn ht), lineText_encode hlast]
  cases line with
  | nil => exact absurd rfl hne
  | cons c line => rfl

theorem addText_blank (ht : t.status = .reading) (cs : List Char) :
    t.addText ('\n' :: cs) = t.closeRecord.addText cs := by
  have hnil : IsLine [] := List.forall_mem_nil _
  have hline : t.addText ('\n' :: cs) = (t.addLine (encode [] ++ [lineFeed])).addText cs :=
    addText_line hnil cs
  rw [hline, addLine, if_neg (fun hn => hn ht)]
  rfl

end Lines

section Records

variable {event : Option (List Char)} {data : List (List Char)} {items : List Item}

theorem pushLine_event (name : List Char) :
    Pending.pushLine ⟨event, data⟩ ("event: ".toList ++ name) = ⟨some name, data⟩ := by
  have hstart : "event: ".toList = eventField ++ [':', ' '] := by decide
  have hfield : splitField ("event: ".toList ++ name) = (eventField, name) := by
    rw [hstart]
    rfl
  rw [Pending.pushLine, hfield]
  rfl

theorem pushLine_data (line : List Char) :
    Pending.pushLine ⟨event, data⟩ ("data: ".toList ++ line) = ⟨event, line :: data⟩ := by
  have hstart : "data: ".toList = dataField ++ [':', ' '] := by decide
  have hfield : splitField ("data: ".toList ++ line) = (dataField, line) := by
    rw [hstart]
    rfl
  rw [Pending.pushLine, hfield]
  rfl

theorem addText_eventLine {name : String} (h : IsLine name.toList) (cs : List Char) :
    addText ⟨⟨event, data⟩, items, .reading⟩ (eventLine name ++ cs) =
      addText ⟨⟨some name.toList, data⟩, items, .reading⟩ cs := by
  have hstart : ∀ c ∈ "event: ".toList, Decoder.isLineEnd c = false := by
    simp [Decoder.isLineEnd]
  unfold eventLine
  rw [List.append_assoc, List.singleton_append,
    addText_field rfl (IsLine.append hstart h) (by simp), pushLine_event]

theorem addText_dataLines {lines : List (List Char)} (h : ∀ l ∈ lines, IsLine l) (cs : List Char) :
    addText ⟨⟨event, data⟩, items, .reading⟩ (lines.flatMap dataLine ++ cs) =
      addText ⟨⟨event, lines.reverse ++ data⟩, items, .reading⟩ cs := by
  have hstart : ∀ c ∈ "data: ".toList, Decoder.isLineEnd c = false := by
    simp [Decoder.isLineEnd]
  induction lines generalizing data with
  | nil => rfl
  | cons line lines ih =>
      obtain ⟨hline, hlines⟩ := List.forall_mem_cons.1 h
      rw [List.flatMap_cons]
      unfold dataLine at ih ⊢
      rw [List.append_assoc, List.append_assoc, List.singleton_append,
        addText_field rfl (IsLine.append hstart hline) (by simp), pushLine_data, ih hlines,
        List.reverse_cons, List.append_assoc, List.singleton_append]

/-- Data lines of which a record is made that says a notice. -/
structure Tells (n : Notice) (lines : List (List Char)) : Prop where
  isLine : ∀ l ∈ lines, IsLine l
  decode : Pending.decode ⟨some n.name.toList, lines.reverse⟩ = .ok n

theorem isLine_name (n : Notice) : IsLine n.name.toList := by
  rw [IsLine]
  cases n with
  | change kind c => cases kind <;> simp [Notice.name, EventKind.name, Decoder.isLineEnd]
  | keepAlive | cancel reason | authRevoked reason => simp [Notice.name, Decoder.isLineEnd]

theorem addText_record {n : Notice} {lines : List (List Char)} (h : Tells n lines)
    (cs : List Char) :
    addText ⟨Pending.empty, items, .reading⟩ (writeRecord n.name lines ++ cs) =
      addText ⟨Pending.empty, items ++ [.ok n], if n.isTerminal then .finished else .reading⟩ cs := by
  rw [writeRecord, List.append_assoc, List.append_assoc, List.singleton_append, Pending.empty,
    addText_eventLine (isLine_name n), addText_dataLines h.isLine, List.append_nil,
    addText_blank rfl, closeRecord, if_neg (by simp [Pending.isEmpty])]
  simp only [h.decode]
  rfl

theorem addText_records (items : List Item) {notices : List Notice} {w : Notice → List Char}
    (h : ∀ n ∈ notices, ∃ lines, Tells n lines ∧ w n = writeRecord n.name lines)
    (hlast : notices.Pairwise fun n _ => n.isTerminal = false) :
    addText ⟨Pending.empty, items, .reading⟩ (notices.flatMap w) =
      ⟨Pending.empty, items ++ notices.map .ok,
        if notices.any Notice.isTerminal then .finished else .reading⟩ := by
  induction notices generalizing items with
  | nil => simp [addText_nil]
  | cons n notices ih =>
      obtain ⟨⟨lines, htells, hw⟩, hnotices⟩ := List.forall_mem_cons.1 h
      obtain ⟨hn, hrest⟩ := List.pairwise_cons.1 hlast
      rw [List.flatMap_cons, hw, addText_record htells]
      by_cases ht : n.isTerminal = true
      · have hnil : notices = [] := by
          refine List.eq_nil_iff_forall_not_mem.2 fun m hm => ?_
          rw [hn m hm] at ht
          cases ht
        simp [hnil, addText_nil, ht]
      · rw [if_neg ht, ih _ hnotices hrest]
        simp [ht]

end Records

end Transcript

section Payloads

/-- Which notices the data of a record says, if its name is that of the notice. -/
def SaidBy (text : List Char) : Notice → Prop
  | .change _ c => Change.ofBytes (encode text) = .ok c
  | .keepAlive => True
  | .cancel reason => Json.ofBytes (encode text) = .ok (reason.elim .null .text)
  | .authRevoked reason => Json.ofBytes (encode text) = .ok (reason.elim .null .text)

theorem reasonOf_eq {text : List Char} {reason : Option String}
    (h : Json.ofBytes (encode text) = .ok (reason.elim .null .text)) :
    reasonOf (some text) = reason := by
  rw [reasonOf, h]
  cases reason <;> rfl

theorem decode_said {n : Notice} {lines : List (List Char)} (hne : lines ≠ [])
    (h : SaidBy (List.intercalate ['\n'] lines) n) :
    Pending.decode ⟨some n.name.toList, lines.reverse⟩ = .ok n := by
  have hdata : Pending.dataText? ⟨some n.name.toList, lines.reverse⟩ =
      some (List.intercalate ['\n'] lines) := by
    rw [Pending.dataText?]
    split
    · next hnil => exact absurd (List.reverse_eq_nil_iff.1 hnil) hne
    · rw [List.reverse_reverse]
  simp only [Pending.decode, hdata, String.ofList_toList]
  cases n with
  | change kind c =>
      simp only [SaidBy] at h
      cases kind <;> simp [Notice.name, EventKind.name, changeOf, h]
  | keepAlive => simp [Notice.name]
  | cancel reason =>
      simp only [SaidBy] at h
      simp [Notice.name, reasonOf_eq h]
  | authRevoked reason =>
      simp only [SaidBy] at h
      simp [Notice.name, reasonOf_eq h]

theorem portable_reason (reason : Option String) (n : Nat) :
    Portable n (reason.elim .null .text) := by
  cases reason with
  | none => exact .null n
  | some s => exact .text n s

variable {n : Notice} (h : ∀ kind c, n = .change kind c → Portable Change.room c.data)
include h

theorem said_payload : SaidBy n.payload n ∧ n.payload.all (isPlain noGap) = true := by
  have hreason (reason : Option String) := (portable_reason reason (Json.depthBudget - 1)).spelled_render
  cases n with
  | change kind c =>
      have hc := Change.spelled_render (h kind c rfl)
      exact ⟨hc.ofBytes Json.isGap_of_noGap, hc.all_isPlain⟩
  | keepAlive => exact ⟨trivial, by decide⟩
  | cancel reason =>
      exact ⟨(hreason reason).ofBytes Json.isGap_of_noGap, (hreason reason).all_isPlain⟩
  | authRevoked reason =>
      exact ⟨(hreason reason).ofBytes Json.isGap_of_noGap, (hreason reason).all_isPlain⟩

theorem said_prettyPayload :
    SaidBy n.prettyPayload n ∧ n.prettyPayload.all (isPlain isGap) = true := by
  have hreason (reason : Option String) :=
    (portable_reason reason (Json.depthBudget - 1)).spelled_renderPretty 0
  cases n with
  | change kind c =>
      have hc := Change.spelled_renderPretty (h kind c rfl)
      exact ⟨hc.ofBytes fun _ hg => hg, hc.all_isPlain⟩
  | keepAlive => exact ⟨trivial, by simp [Notice.prettyPayload, Json.renderPretty]; decide⟩
  | cancel reason => exact ⟨(hreason reason).ofBytes fun _ hg => hg, (hreason reason).all_isPlain⟩
  | authRevoked reason =>
      exact ⟨(hreason reason).ofBytes fun _ hg => hg, (hreason reason).all_isPlain⟩

omit h in
theorem isLine_of_plain (gap : Char → Bool) {line : List Char} (hgap : gap '\r' = false)
    (hfeed : gap '\n' = true → '\n' ∉ line) (hplain : ∀ c ∈ line, isPlain gap c = true) :
    IsLine line := by
  intro c hc
  have hp := hplain c hc
  simp only [isPlain, Bool.or_eq_true, decide_eq_true_eq] at hp
  rw [Decoder.isLineEnd, Bool.or_eq_false_iff, decide_eq_false_iff_not, decide_eq_false_iff_not]
  constructor
  · rintro rfl
    rcases hp with hp | hp
    · exact hfeed hp hc
    · exact absurd hp (by decide)
  · rintro rfl
    rcases hp with hp | hp
    · rw [hgap] at hp
      cases hp
    · exact absurd hp (by decide)

theorem tells_payload : Transcript.Tells n [n.payload] := by
  obtain ⟨hsaid, hplain⟩ := said_payload h
  refine ⟨?_, decode_said (by simp) (by simpa using hsaid)⟩
  simp only [List.mem_singleton, forall_eq]
  exact isLine_of_plain noGap rfl (fun hn => nomatch hn) (List.all_eq_true.1 hplain)

theorem tells_prettyPayload : Transcript.Tells n (Text.splitOn '\n' n.prettyPayload) := by
  obtain ⟨hsaid, hplain⟩ := said_prettyPayload h
  have htext := Text.intercalate_splitOn '\n' n.prettyPayload
  refine ⟨fun l hl => ?_, decode_said (Text.splitOn_ne_nil _ _) (by rwa [htext])⟩
  refine isLine_of_plain isGap rfl (fun _ => Text.not_mem_of_mem_splitOn hl) fun c hc => ?_
  exact List.all_eq_true.1 hplain c (Text.mem_of_mem_splitOn hl hc)

end Payloads

namespace Tap

/-- The notices that a server writes come out of a decoder as they are, each with its payload in
one line or each with its payload laid out, however the bytes are cut. -/
theorem uses_give_notices {notices : List Notice}
    (hlast : notices.Pairwise fun n _ => n.isTerminal = false)
    (hportable : ∀ kind c, .change kind c ∈ notices → Portable Change.room c.data)
    {uses : List Use} (hopen : .finish ∉ uses)
    (hbytes : pushedBytes uses = write notices ∨ pushedBytes uses = writeAllSpread notices) :
    (uses.foldl use new).given = notices.map .ok ∧
      (uses.foldl use new).status =
        if notices.any Notice.isTerminal then .finished else .reading := by
  have hdata : ∀ n ∈ notices, ∀ kind c, n = .change kind c → Portable Change.room c.data := by
    rintro n hn kind c rfl
    exact hportable kind c hn
  have hread : Transcript.ofBytes (pushedBytes uses) =
      ⟨Pending.empty, notices.map .ok, if notices.any Notice.isTerminal then .finished else .reading⟩ := by
    rcases hbytes with hbytes | hbytes
    · rw [hbytes]
      exact Transcript.addText_records []
        (fun n hn => ⟨_, tells_payload (hdata n hn), rfl⟩) hlast
    · rw [hbytes]
      exact Transcript.addText_records []
        (fun n hn => ⟨_, tells_prettyPayload (hdata n hn), rfl⟩) hlast
  obtain ⟨hgiven, hstatus⟩ := foldl_use follows_new uses
  rw [List.nil_append, hread] at hgiven hstatus
  rw [if_neg hopen] at hstatus
  exact ⟨hgiven, hstatus⟩

/-- Laid out, with a line end in a path and one in a reason. -/
theorem uses_give_notices_laid_out :
    let notices : List Notice :=
      [.change .put ⟨"a: \"\n", .object [("b", .list [.number (.whole (-5)), .text "\r\n"])]⟩,
        .keepAlive, .cancel (some "c\nd")]
    let uses : List Use := [.push (writeAllSpread notices), .next]
    (uses.foldl use new).given = notices.map .ok ∧ (uses.foldl use new).status = .finished := by
  intro notices uses
  have hlist : Portable (Change.room - 1) (.list [.number (.whole (-5)), .text "\r\n"]) := by
    refine .list fun x hx => ?_
    simp only [List.mem_cons, List.not_mem_nil, or_false] at hx
    rcases hx with rfl | rfl
    · exact .whole _ (by decide)
    · exact .text _ _
  have hportable : ∀ kind c, .change kind c ∈ notices → Portable Change.room c.data := by
    intro kind c hc
    simp only [notices, List.mem_cons, Notice.change.injEq, reduceCtorEq, List.not_mem_nil,
      or_false] at hc
    obtain ⟨-, rfl⟩ := hc
    refine .object (List.pairwise_singleton _ _) fun m hm => ?_
    rw [List.mem_singleton.1 hm]
    exact hlist
  have hbytes : pushedBytes uses = writeAllSpread notices := by
    simp [uses, pushedBytes]
  exact uses_give_notices (by decide) hportable (by simp [uses]) (.inr hbytes)

end Tap

end Stream

end LiveTree
