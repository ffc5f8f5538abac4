import LiveTree.Event
import LiveTree.Proofs.Json.Characters
import LiveTree.Proofs.Json.Fields
import LiveTree.Proofs.Json.Printing

namespace LiveTree

open Text.Utf8 (encode encode_cons encode_append)
open Json (Takes Portable FieldRun isGap noGap isPlain memberText partsText renderText)

def Change.room : Nat :=
  Change.innerDepth - 1

namespace Change

theorem takes_path {gap : List Char} (hgap : ∀ c ∈ gap, isGap c = true) (s : String) :
    Takes readPath (gap ++ renderText s) s := by
  intro rest passed hrest
  obtain ⟨now, hnow⟩ := Json.takes_text hgap s rest passed hrest
  exact ⟨now, by simp only [readPath, hnow, bind, Except.bind]⟩

theorem takes_data {gap : Char → Bool} (hgap : ∀ c, gap c = true → isGap c = true)
    {colon : List Char} (hcolon : ∀ c ∈ colon, gap c = true) {data : Json} {t : List Char}
    (h : Json.Spelled gap room data t) {bound : Nat} (hbound : t.length < bound) :
    Takes (Json.readValue bound innerDepth) (colon ++ t) data :=
  (h.takes hgap (by decide) hbound).behind_gap (fun c hc => hgap c (hcolon c hc)) h.isVisible

theorem fields_run {gap : Char → Bool} (hgap : ∀ c, gap c = true → isGap c = true)
    {colon : List Char} (hcolon : ∀ c ∈ colon, gap c = true) (path : String) {data : Json}
    {t : List Char} (h : Json.Spelled gap room data t) {bound : Nat} (hbound : t.length < bound) :
    FieldRun record bound record.start
      [memberText "path" (colon ++ renderText path), memberText "data" (colon ++ t)]
      ⟨some path, some data⟩ := by
  have hpath := (takes_path (fun c hc => hgap c (hcolon c hc)) path).map
    fun s => ({ record.start with path := some s } : Draft)
  have hdata := (takes_data hgap hcolon h hbound).map
    fun j => (⟨some path, some j⟩ : Draft)
  exact .cons rfl rfl hpath (.cons rfl rfl hdata (.nil _))

/-- The texts that a change has, with the characters `gap` between its parts. -/
inductive Spelled (gap : Char → Bool) (c : Change) : List Char → Prop
  | mk {before last colon t : List Char} (hbefore : ∀ c ∈ before, gap c = true)
      (hlast : ∀ c ∈ last, gap c = true) (hcolon : ∀ c ∈ colon, gap c = true)
      (hdata : Json.Spelled gap room c.data t) :
      Spelled gap c ('\x7b' :: partsText before last '\x7d' true
        [memberText "path" (colon ++ renderText c.path), memberText "data" (colon ++ t)])

theorem Spelled.ofBytes {gap : Char → Bool} (hgap : ∀ c, gap c = true → isGap c = true)
    {c : Change} {text : List Char} (h : Spelled gap c text) :
    Change.ofBytes (encode text) = .ok c := by
  obtain @⟨before, last, colon, t, hbefore, hlast, hcolon, hdata⟩ := h
  have hmember : memberText "data" (colon ++ t) ∈
      [memberText "path" (colon ++ renderText c.path), memberText "data" (colon ++ t)] := by
    simp
  have htext : _ = '\x7b' :: partsText before last '\x7d' true
      [memberText "path" (colon ++ renderText c.path), memberText "data" (colon ++ t)] := rfl
  have hlength := Json.length_lt_fuelFor htext hmember
  rw [List.length_append] at hlength
  have hrun := fields_run hgap hcolon c.path hdata (Nat.lt_of_le_of_lt (Nat.le_add_left ..) hlength)
  have hfinish : record.finish ⟨some c.path, some c.data⟩ = .ok c := rfl
  exact Json.Record.ofBytes_run (fun c hc => hgap c (hbefore c hc))
    (fun c hc => hgap c (hlast c hc)) rfl hrun hfinish

theorem Spelled.all_isPlain {gap : Char → Bool} {c : Change} {text : List Char}
    (h : Spelled gap c text) : text.all (isPlain gap) = true := by
  obtain ⟨hbefore, hlast, hcolon, hdata⟩ := h
  have hmark (c : Char) (hc : 0x20 ≤ c.toNat) : isPlain gap c = true := Json.isPlain_of_le hc
  have hgap := Json.all_isPlain_gap hcolon
  have hpath := Json.all_memberText (Json.all_isPlain_renderText "path") (hmark ':' (by decide))
    (List.all_append.trans (Bool.and_eq_true_iff.2 ⟨hgap, Json.all_isPlain_renderText c.path⟩))
  have hvalue := Json.all_memberText (Json.all_isPlain_renderText "data") (hmark ':' (by decide))
    (List.all_append.trans (Bool.and_eq_true_iff.2 ⟨hgap, hdata.all_isPlain⟩))
  rw [List.all_cons, hmark _ (by decide), Bool.true_and]
  refine Json.all_partsText (Json.all_isPlain_gap hbefore) (Json.all_isPlain_gap hlast)
    (hmark ',' (by decide)) (hmark _ (by decide)) ?_ true
  simp only [List.mem_cons, List.not_mem_nil, or_false, forall_eq_or_imp, forall_eq]
  exact ⟨hpath, hvalue⟩

theorem render_eq (c : Change) :
    c.render = '\x7b' :: partsText [] [] '\x7d' true
      [memberText "path" ([] ++ renderText c.path), memberText "data" ([] ++ c.data.render)] := by
  have hpath : renderText "path" = ['"', 'p', 'a', 't', 'h', '"'] := by decide
  have hdata : renderText "data" = ['"', 'd', 'a', 't', 'a', '"'] := by decide
  have hopen : "\x7b\"path\":".toList = ['\x7b', '"', 'p', 'a', 't', 'h', '"', ':'] := by decide
  have hnext : ",\"data\":".toList = [',', '"', 'd', 'a', 't', 'a', '"', ':'] := by decide
  unfold render
  simp only [hopen, hnext, partsText, memberText, hpath, hdata, Json.partMark, List.nil_append,
    List.cons_append, List.append_assoc, if_true, Bool.false_eq_true, if_false]

theorem renderPretty_eq (c : Change) :
    c.renderPretty = '\x7b' :: partsText (Json.lineAt 1) (Json.lineAt 0) '\x7d' true
      [memberText "path" ([' '] ++ renderText c.path),
       memberText "data" ([' '] ++ c.data.renderPretty 1)] := by
  have hpath : renderText "path" = ['"', 'p', 'a', 't', 'h', '"'] := by decide
  have hdata : renderText "data" = ['"', 'd', 'a', 't', 'a', '"'] := by decide
  simp [renderPretty, partsText, memberText, Json.partMark, hpath, hdata]

theorem spelled_render {c : Change} (h : Portable room c.data) : Spelled noGap c c.render := by
  rw [render_eq]
  exact .mk Json.noGap_of_mem_nil Json.noGap_of_mem_nil Json.noGap_of_mem_nil h.spelled_render

theorem spelled_renderPretty {c : Change} (h : Portable room c.data) :
    Spelled isGap c c.renderPretty := by
  rw [renderPretty_eq]
  exact .mk (Json.isGap_of_mem_lineAt 1) (Json.isGap_of_mem_lineAt 0) (by simp [isGap])
    (h.spelled_renderPretty 1)

end Change

namespace Event

theorem takes_kind (k : EventKind) : Takes EventKind.read (renderText k.name) k := by
  intro rest passed _
  obtain ⟨now, hnow⟩ := Json.readText_quoted k.name rest (passed + 1)
  refine ⟨now, ?_⟩
  have hname : EventKind.readName
      ⟨encode (k.name.toList.flatMap Json.escape ++ ['"']) ++ rest, passed + 1⟩ =
        .ok (k, ⟨rest, now⟩) := by
    rw [EventKind.readName, hnow]
    cases k <;> rfl
  rw [← hname]
  rfl

theorem takes_snapshot {s : Json} {t : List Char} (h : Json.Spelled noGap Change.room s t)
    {bound : Nat} (hbound : t.length < bound) :
    Takes (readSnapshot bound) t (if s = .null then none else some s) := by
  intro rest passed hrest
  obtain ⟨b, bytes, htext, hblank, -, hnull⟩ := h.exists_head
  have hroom : Change.room < Change.innerDepth := by decide
  obtain ⟨now, hnow⟩ := h.takes Json.isGap_of_noGap hroom hbound rest passed hrest
  have hskip := Json.skipBlanks_of_not hblank (bytes ++ rest) passed
  rw [htext, List.cons_append] at hnow ⊢
  by_cases hs : s = .null
  · subst hs
    cases h with
    | null =>
        obtain ⟨rfl, rfl⟩ := List.cons.inj htext
        exact ⟨passed + 4, rfl⟩
  · have hb : b ≠ 0x6E := fun hb => hs (hnull hb)
    refine ⟨now, ?_⟩
    simp only [readSnapshot, hskip, Json.byte?_cons, Option.some.injEq, if_neg hb, hnow, if_neg hs,
      bind, Except.bind]

theorem fields_run (e : Event) (hdata : Portable Change.room e.data) {bound : Nat}
    (hbound : e.data.render.length < bound) {ts : List (List Char)} {d : Draft}
    (h : FieldRun record bound ⟨some e.kind, some e.path, some e.data, none⟩ ts d) :
    FieldRun record bound record.start
      (memberText "kind" (renderText e.kind.name) :: memberText "path" (renderText e.path) ::
        memberText "data" e.data.render :: ts) d := by
  have hkind := (takes_kind e.kind).map
    fun k => (⟨some k, none, none, none⟩ : Draft)
  have hpath := (Change.takes_path (List.forall_mem_nil _) e.path).map
    fun s => (⟨some e.kind, some s, none, none⟩ : Draft)
  have hvalue := (Change.takes_data Json.isGap_of_noGap Json.noGap_of_mem_nil
    hdata.spelled_render hbound).map
    fun j => (⟨some e.kind, some e.path, some j, none⟩ : Draft)
  exact .cons rfl rfl hkind (.cons rfl rfl hpath (.cons rfl rfl hvalue h))

def snapshotTexts (snapshot : Option Json) : List (List Char) :=
  (snapshot.map fun s => memberText "snapshot" s.render).toList

theorem snapshot_run (e : Event) (hsnapshot : ∀ s ∈ e.snapshot, Portable Change.room s)
    {bound : Nat} (hbound : ∀ s ∈ e.snapshot, s.render.length < bound) : ∃ d,
    FieldRun record bound ⟨some e.kind, some e.path, some e.data, none⟩
      (snapshotTexts e.snapshot) d ∧
    record.finish d = .ok { e with snapshot := e.snapshot.filter (· ≠ .null) } := by
  obtain ⟨kind, path, data, snapshot⟩ := e
  cases snapshot with
  | none => exact ⟨_, .nil _, rfl⟩
  | some s =>
      have htakes := (takes_snapshot (hsnapshot s rfl).spelled_render (hbound s rfl)).map
        fun r => (⟨some kind, some path, some data, some r⟩ : Draft)
      refine ⟨_, .cons rfl rfl htakes (.nil _), ?_⟩
      by_cases hs : s = .null <;> simp [record, finish, Option.filter, hs]

theorem render_eq (e : Event) :
    e.render = '\x7b' :: partsText [] [] '\x7d' true
      (memberText "kind" (renderText e.kind.name) :: memberText "path" (renderText e.path) ::
        memberText "data" e.data.render :: snapshotTexts e.snapshot) := by
  have hkind : renderText "kind" = ['"', 'k', 'i', 'n', 'd', '"'] := by decide
  have hpath : renderText "path" = ['"', 'p', 'a', 't', 'h', '"'] := by decide
  have hdata : renderText "data" = ['"', 'd', 'a', 't', 'a', '"'] := by decide
  have hsnapshot : renderText "snapshot" =
      ['"', 's', 'n', 'a', 'p', 's', 'h', 'o', 't', '"'] := by decide
  unfold render
  cases e.snapshot <;>
    simp [snapshotTexts, partsText, memberText, hkind, hpath, hdata, hsnapshot, Json.partMark]

theorem ofBytes_render (e : Event) (hdata : Portable Change.room e.data)
    (hsnapshot : ∀ s ∈ e.snapshot, Portable Change.room s) :
    ofBytes (encode e.render) = .ok { e with snapshot := e.snapshot.filter (· ≠ .null) } := by
  have hmember : memberText "data" e.data.render ∈
      memberText "kind" (renderText e.kind.name) :: memberText "path" (renderText e.path) ::
        memberText "data" e.data.render :: snapshotTexts e.snapshot := by
    simp
  have hvalue : e.data.render.length < Json.fuelFor (encode e.render) :=
    Json.length_lt_fuelFor e.render_eq hmember
  have hbound : ∀ s ∈ e.snapshot, s.render.length < Json.fuelFor (encode e.render) := by
    intro s hs
    have hmember : memberText "snapshot" s.render ∈
        memberText "kind" (renderText e.kind.name) :: memberText "path" (renderText e.path) ::
          memberText "data" e.data.render :: snapshotTexts e.snapshot := by
      simp [snapshotTexts, Option.mem_def.1 hs]
    exact Json.length_lt_fuelFor e.render_eq hmember
  obtain ⟨d, hrun, hfinish⟩ := e.snapshot_run hsnapshot hbound
  rw [ofBytes]
  exact Json.Record.ofBytes_run (List.forall_mem_nil _) (List.forall_mem_nil _) e.render_eq
    (e.fields_run hdata hvalue hrun) hfinish

/-- An event is read back from its text as it was, but for a null snapshot, which is lost. -/
theorem reread_render (e : Event) (hdata : Portable Change.room e.data)
    (hsnapshot : ∀ s ∈ e.snapshot, Portable Change.room s) :
    ofBytes (encode e.render) = .ok { e with snapshot := e.snapshot.filter (· ≠ .null) } ∧
    (ofBytes (encode e.render) = .ok e ↔ e.snapshot ≠ some .null) := by
  have hread := e.ofBytes_render hdata hsnapshot
  refine ⟨hread, ?_⟩
  rw [hread]
  obtain ⟨kind, path, data, snapshot⟩ := e
  cases snapshot with
  | none => simp
  | some s => by_cases hs : s = .null <;> simp [Option.filter, hs]

theorem reread_render_mirrored :
    let e : Event := ⟨.patch, "/a\n\"b", .list [.number (.whole (-3)), .null],
      some (.object [("a", .text "é")])⟩
    Portable Change.room e.data ∧ (∀ s ∈ e.snapshot, Portable Change.room s) ∧
      ofBytes (encode e.render) = .ok e := by
  intro e
  have hdata : Portable Change.room e.data := by
    refine .list fun x hx => ?_
    simp only [List.mem_cons, List.not_mem_nil, or_false] at hx
    rcases hx with rfl | rfl
    · exact .whole _ (by decide)
    · exact .null _
  have hsnapshot : ∀ s ∈ e.snapshot, Portable Change.room s := by
    rintro s ⟨⟩
    refine .object (List.pairwise_singleton _ _) fun m hm => ?_
    rw [List.mem_singleton.1 hm]
    exact .text _ _
  exact ⟨hdata, hsnapshot, (reread_render e hdata hsnapshot).2.2 (by simp [e])⟩

theorem not_reread_null_snapshot :
    ¬ ∀ e : Event, Portable Change.room e.data → (∀ s ∈ e.snapshot, Portable Change.room s) →
      ofBytes (encode e.render) = .ok e := by
  intro h
  let e : Event := ⟨.put, "/", .number (.whole 1), some .null⟩
  have hdata : Portable Change.room e.data := .whole _ (by decide)
  have hsnapshot : ∀ s ∈ e.snapshot, Portable Change.room s := by
    rintro s ⟨⟩
    exact .null _
  have hsame := h e hdata hsnapshot
  rw [e.ofBytes_render hdata hsnapshot] at hsame
  simp [e] at hsame

end Event

end LiveTree
