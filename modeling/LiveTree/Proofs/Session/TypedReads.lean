import LiveTree.Proofs.Event.Rereading
import LiveTree.Proofs.Json.Wide
import LiveTree.Proofs.Session.Refusals

namespace LiveTree

open Text.Utf8 (encode encode_cons encode_append)
open Json (Means Reaches Settles memberText partsText partMark renderText)

namespace Json

variable {σ α : Type} {r : Record σ α} {bound : Nat} {c : Cursor} {rest bytes : List UInt8}

theorem Record.read_brace {fuel now : Nat} (hfuel : bound = fuel)
    (hc : c.skipBlanks = ⟨0x7B :: bytes, now⟩) :
    r.read bound c = readFieldsByName r bound fuel true r.start ⟨bytes, now + 1⟩ := by
  subst hfuel
  have hlist : (0x7B : UInt8) ≠ 0x5B := by decide
  have hdeep : ¬ depthBudget ≤ 1 := by decide
  simp only [Record.read, firstByte_eq hc, ok_bind, if_neg hlist, if_true, enter, if_neg hdeep,
    next_cons]

theorem reaches_finish {fuel : Nat} {s : σ} {x : α} (hfinish : r.finish s = .ok x)
    (hc : c.At (encode ['\x7d'] ++ rest)) :
    Reaches rest (readFieldsByName r bound (fuel + 1) false s c) (some x) := by
  have hgap : ∀ c ∈ ([] : List Char), isWhite c = true := List.forall_mem_nil _
  obtain ⟨now, hnow⟩ := anotherMember_close hgap false hc
  have hread : readFieldsByName r bound (fuel + 1) false s c = .ok (x, ⟨rest, now + 1⟩) := by
    simp [readFieldsByName, hnow, ok_bind, next_cons, hfinish, fitted]
  exact hread ▸ .found x rfl

end Json

namespace Change

def textOf (path : String) (data : List Char) : List Char :=
  "\x7b\"path\":".toList ++ renderText path ++ ",\"data\":".toList ++ data ++ ['\x7d']

theorem textOf_eq (path : String) (data : List Char) : textOf path data =
    '\x7b' :: partsText [] [] '\x7d' true
      [memberText "path" (renderText path), memberText "data" data] := by
  have hpath : renderText "path" = ['"', 'p', 'a', 't', 'h', '"'] := by decide
  have hdata : renderText "data" = ['"', 'd', 'a', 't', 'a', '"'] := by decide
  have hopen : "\x7b\"path\":".toList = ['\x7b', '"', 'p', 'a', 't', 'h', '"', ':'] := by decide
  have hnext : ",\"data\":".toList = [',', '"', 'd', 'a', 't', 'a', '"', ':'] := by decide
  unfold textOf
  simp only [hopen, hnext, partsText, memberText, hpath, hdata, Json.partMark, List.nil_append,
    List.cons_append, List.append_assoc, if_true, Bool.false_eq_true, if_false]

variable {n : Nat} {t : List Char} {o : Option Json}

theorem exists_pathField (bound : Nat) : ∃ f,
    (record.fields bound).find? (·.name = "path") = some f ∧ f.isSet record.start = false ∧
      ∀ c, f.read record.start c = readPath c >>= fun x => .ok (⟨some x.1, none⟩, x.2) :=
  ⟨_, rfl, rfl, fun _ => rfl⟩

theorem exists_dataField (bound : Nat) (path : String) : ∃ f,
    (record.fields bound).find? (·.name = "data") = some f ∧ f.isSet ⟨some path, none⟩ = false ∧
      ∀ c, f.read ⟨some path, none⟩ c =
        Json.readValue bound innerDepth c >>= fun x => .ok (⟨some path, some x.1⟩, x.2) :=
  ⟨_, rfl, rfl, fun _ => rfl⟩

theorem settles_textOf (h : Means n t o) (hdepth : n < innerDepth) (path : String) {bound : Nat}
    (hbound : (textOf path t).length < bound) :
    Settles (record.read bound) (textOf path t) (o.map (Change.mk path)) := by
  intro rest c _ hc
  let texts := [memberText "path" (renderText path), memberText "data" t]
  rw [textOf_eq] at hc hbound
  change (partsText [] [] '\x7d' true texts).length + 1 < bound at hbound
  have hcount : 2 ≤ (partsText [] [] '\x7d' true texts).length :=
    Json.length_le_partsText [] [] '\x7d' texts
  have hmember : (memberText "data" t).length ≤ (partsText [] [] '\x7d' true texts).length :=
    Json.length_le_of_mem [] [] '\x7d' true (List.mem_cons_of_mem _ (List.mem_cons_self ..))
  rw [memberText, List.length_append, List.length_cons] at hmember
  obtain ⟨fuel, hfuel⟩ : ∃ m, bound = m + 3 := ⟨bound - 3, by omega⟩
  let last := encode ['\x7d'] ++ rest
  let data := encode (partMark [] false) ++ (encode (memberText "data" t) ++ last)
  have hencode : encode (partsText [] [] '\x7d' true texts) ++ rest =
      encode (partMark [] true) ++ (encode (memberText "path" (renderText path)) ++ data) := by
    simp [texts, partsText, encode_append, data, last]
  obtain ⟨now, hnow⟩ := Json.Cursor.At.skipBlanks (b := 0x7B) rfl hc
  change c.skipBlanks = ⟨0x7B :: (encode (partsText [] [] '\x7d' true texts) ++ rest), now⟩ at hnow
  rw [hencode] at hnow
  obtain ⟨f, hpath, hpathSet, hreadPath⟩ := exists_pathField bound
  obtain ⟨g, hdata, hdataSet, hreadData⟩ := exists_dataField bound path
  obtain ⟨start, hstart⟩ := Json.readFieldsByName_member (fuel + 2) (List.forall_mem_nil _) hpath
    hpathSet true (renderText path) data (now + 1)
  obtain ⟨middle, hmiddle⟩ := takes_path (List.forall_mem_nil _) path data start rfl
  obtain ⟨begin, hbegin⟩ := Json.readFieldsByName_member (fuel + 1) (List.forall_mem_nil _) hdata
    hdataSet false t last middle
  rw [List.nil_append] at hmiddle
  have hread : record.read bound c = Json.readValue bound innerDepth ⟨encode t ++ last, begin⟩ >>=
      fun x => Json.readFieldsByName record bound (fuel + 1) false ⟨some path, some x.1⟩ x.2 := by
    rw [Json.Record.read_brace hfuel hnow, hstart, hreadPath, hmiddle, Json.ok_bind, Json.ok_bind,
      hbegin, hreadData, bind_assoc]
    rfl
  have hvalue := h.settles hdepth (show t.length < bound by omega) last ⟨encode t ++ last, begin⟩
    rfl rfl
  rw [hread, Option.map_eq_bind]
  exact hvalue.bind fun j c hc => Json.reaches_finish rfl hc

theorem ofBytes_textOf_iff (h : Means n t o) (hdepth : n < innerDepth) (path : String)
    (c : Change) : ofBytes (encode (textOf path t)) = .ok c ↔ o.map (Change.mk path) = some c :=
  (settles_textOf h hdepth path
    (Nat.lt_succ_of_le (Text.Utf8.length_le_encode _))).readWhole_iff c

end Change

section Records

variable {p : Stream.Pending} {path : String} {n : Nat} {t : List Char} {o : Option Json}

theorem Stream.Pending.decode_put_iff (hevent : p.event = some "put".toList)
    (hdata : p.dataText? = some (Change.textOf path t)) (h : Means n t o)
    (hdepth : n < Change.innerDepth) (shape : Json.Shape) (v : Json) :
    (∃ c, p.decode = .ok (.change .put c) ∧ (Event.ofChange .put c).dataAs shape = .ok v) ↔
      shape.fitted? o = some v := by
  have hdecode : p.decode = Stream.changeOf .put (some (Change.textOf path t)) := by
    rw [Stream.Pending.decode, hevent, hdata]
    rfl
  have hiff := Change.ofBytes_textOf_iff h hdepth path
  rw [hdecode, Stream.changeOf]
  cases o with
  | none =>
      cases hread : Change.ofBytes (encode (Change.textOf path t)) with
      | ok c => cases (hiff c).1 hread
      | error f => simp [Json.Shape.fitted?]
  | some j =>
      have hfit : (Event.ofChange .put ⟨path, j⟩).dataAs shape = .ok v ↔
          shape.fitted? (some j) = some v := by
        rw [Event.dataAs, Json.Shape.fitted?, Option.bind_some, Event.ofChange]
        cases shape.fit j <;> simp [Except.toOption]
      rw [(hiff ⟨path, j⟩).2 rfl, ← hfit]
      constructor
      · rintro ⟨c, hc, hv⟩
        cases hc
        exact hv
      · exact fun hv => ⟨⟨path, j⟩, rfl, hv⟩

end Records

namespace Session

variable {s : Session} {h : Nat} {x : Handle} {c : Client} {r : Request} {a : Answer}
  {n : Nat} {t : List Char} {o : Option Json}

theorem valueOf_of_means (hmeans : Means n t o) (shape : Json.Shape) :
    valueOf shape (encode t) = (shape.ofBytes (encode t)).mapError .json := by
  obtain ⟨before, b, bytes, -, hencode, hblank, -, hfeed⟩ := hmeans.shows
  have hmem : b ∈ encode t := by
    rw [hencode]
    exact List.mem_append_right _ (List.mem_cons_self ..)
  have hbody : (encode t).all isBodyBlank = false := by
    refine List.all_eq_false.2 ⟨b, hmem, ?_⟩
    simp only [Json.Cursor.isBlank, Bool.or_eq_false_iff, decide_eq_false_iff_not] at hblank
    simp [isBodyBlank, hblank, hfeed]
  rw [valueOf, hbody, if_neg Bool.false_ne_true]

section Reading

variable (hx : s.handle? h = some x) (hc : s.clients[x.client]? = some c)
  (hr : x.location.request .get Request.anything (s.userAgent x) none = .ok r)
  (ha : Exchange.Answered c.traffic s.network r a) (hs : Exchange.isSuccess a.status = true)
  (hend : a.ending = .closed) (hbody : a.pieces.flatten = encode t) (hmeans : Means 126 t o)

include hx hc hr ha hs hend hbody hmeans

theorem perform_read_eq_value_iff (shape : Json.Shape) (v : Json) :
    (s.perform h (.read shape)).1 = .value v ↔ shape.ofBytes (encode t) = .ok v := by
  have hread : (s.perform h (.read shape)).1 = ofExcept (valueOf shape (encode t)) .value := by
    have hdone := execute_of_answered hc ha hs hend hr
    rw [hbody] at hdone
    simp only [perform, target?, hx, read, hdone, result]
  rw [hread, valueOf_of_means hmeans]
  cases shape.ofBytes (encode t) with
  | ok j =>
      change Result.value j = .value v ↔ Except.ok j = .ok v
      rw [Result.value.injEq, Except.ok.injEq]
  | error f =>
      change Result.failed (.json f) = .value v ↔ Except.error f = .ok v
      simp only [reduceCtorEq]

/-- Reading and watching agree: the text of a tree, as the body of an answer, is read as a value of
some shape if and only if a put record that holds it is decoded and its event has that value. Only
integers that the types of 128 bits take and no tree keeps are read, but not had from an event. -/
theorem read_iff_put_or_beyond {p : Stream.Pending} {path : String}
    (hevent : p.event = some "put".toList) (hdata : p.dataText? = some (Change.textOf path t))
    (shape : Json.Shape) (v : Json) :
    ((s.perform h (.read shape)).1 = .value v ↔
      (∃ c, p.decode = .ok (.change .put c) ∧ (Event.ofChange .put c).dataAs shape = .ok v) ∨
        shape.TakesBeyond t v) ∧
      (shape.TakesBeyond t v → ∀ w, ¬ ∃ c, p.decode = .ok (.change .put c) ∧
        (Event.ofChange .put c).dataAs shape = .ok w) := by
  have hput (w : Json) := Stream.Pending.decode_put_iff hevent hdata hmeans (by decide) shape w
  rw [perform_read_eq_value_iff hx hc hr ha hs hend hbody hmeans, hput,
    hmeans.ofBytes_iff (by decide)]
  refine ⟨Iff.rfl, fun hbeyond w => ?_⟩
  rw [hput, hmeans.fitted?_of_takesBeyond (by decide) hbeyond]
  exact nofun

end Reading

/-- A map of one member, with a blank in its text. -/
theorem read_iff_put_or_beyond_members :
    let body := "\x7b\"a\": -7\x7d".toList
    let answer : Answer := ⟨200, [encode body], .closed, .utf8⟩
    let v : Json := .object [("a", .number (.whole (-7)))]
    ∃ s, (start (.scripted [.answer answer])).connect "http://db.test" .default = .ok s ∧
      (s.perform 0 (.read .integerMap)).1 = .value v ∧
        ∃ c, Stream.Pending.decode ⟨some "put".toList, [Change.textOf "/" body]⟩ =
            .ok (.change .put c) ∧ (Event.ofChange .put c).dataAs .integerMap = .ok v := by
  intro body answer v
  obtain ⟨x, c, r, hx, hc, hr, ha⟩ := exists_request_answeredBy answer
  let number : Json.Numeral := ⟨true, 7, [], none, none, by decide⟩
  let label : Json.Label := ⟨[], [.plain 'a' (by decide)], [], by simp⟩
  let members : List (Json.Label × List Char × Option Json) :=
    [(label, [' '] ++ (number.text ++ []), number.value?.map .number)]
  have hnumber : Means 125 ([' '] ++ (number.text ++ [])) (number.value?.map .number) :=
    .padded (List.forall_mem_singleton.2 rfl) (List.forall_mem_nil _) (.scalar _ (.number number))
  have hkeys : (members.filterMap fun m => m.1.key?).Nodup := by decide +kernel +zetaReduce
  have hobject := Means.object (List.forall_mem_nil _) hkeys
    (List.forall_mem_cons.2 ⟨hnumber, List.forall_mem_nil _⟩)
  have hbody : '\x7b' :: partsText [] [] '\x7d' true
      (members.map fun m => m.1.text ++ ':' :: m.2.1) = body := by decide +kernel +zetaReduce
  have hvalue : (Json.gather (members.map fun m => (m.1.key?, m.2.2)) []).map Json.object =
      some v := by decide +kernel +zetaReduce
  have hmeans : Means 126 body (some v) := hbody ▸ hvalue ▸ hobject
  let p : Stream.Pending := ⟨some "put".toList, [Change.textOf "/" body]⟩
  have hdata : p.dataText? = some (Change.textOf "/" body) := by
    simp [p, Stream.Pending.dataText?, List.intercalate]
  have hflatten : answer.pieces.flatten = encode body := List.append_nil _
  have hfit : Json.Shape.integerMap.fitted? (some v) = some v := by decide +kernel +zetaReduce
  have hput := (Stream.Pending.decode_put_iff rfl hdata hmeans (by decide) .integerMap v).2 hfit
  have hiff := read_iff_put_or_beyond hx hc hr ha rfl rfl hflatten hmeans rfl hdata .integerMap v
  exact ⟨answeredBy answer, connect_answeredBy answer, hiff.1.2 (.inl hput), hput⟩

/-- An unsigned integer of 128 bits is read, and not had from an event, where 64 bits do not hold
it. -/
theorem not_read_iff_put :
    let body := "18446744073709551616".toList
    let shape : Json.Shape := .scalar (.integer ⟨false, .bits128⟩)
    let v : Json := .number (.whole 18446744073709551616)
    (∃ o, Means 126 body o) ∧
      ∃ s, (start (.scripted [.answer ⟨200, [encode body], .closed, .utf8⟩])).connect
          "http://db.test" .default = .ok s ∧
        (s.perform 0 (.read shape)).1 = .value v ∧
          ¬ ∃ c, Stream.Pending.decode ⟨some "put".toList, [Change.textOf "/" body]⟩ =
            .ok (.change .put c) ∧ (Event.ofChange .put c).dataAs shape = .ok v := by
  intro body shape v
  let answer : Answer := ⟨200, [encode body], .closed, .utf8⟩
  let l : Json.Numeral := ⟨false, 1, [8, 4, 4, 6, 7, 4, 4, 0, 7, 3, 7, 0, 9, 5, 5, 1, 6, 1, 6], none,
    none, by decide⟩
  have hspells : Json.Spells body l := Json.Spells.text l
  have hmeans := hspells.means 126
  have hbeyond : shape.TakesBeyond body v :=
    ⟨⟨false, .bits128⟩, l, rfl, rfl, hspells, rfl, by decide +kernel, by decide +kernel,
      by decide +kernel⟩
  obtain ⟨x, c, r, hx, hc, hr, ha⟩ := exists_request_answeredBy answer
  have hdata : Stream.Pending.dataText? ⟨some "put".toList, [Change.textOf "/" body]⟩ =
      some (Change.textOf "/" body) := by
    simp [Stream.Pending.dataText?, List.intercalate]
  refine ⟨⟨_, hmeans⟩, answeredBy answer, connect_answeredBy answer, ?_, ?_⟩
  · rw [perform_read_eq_value_iff hx hc hr ha rfl rfl (List.append_nil _) hmeans,
      hmeans.ofBytes_iff (by decide)]
    exact .inr hbeyond
  · rw [Stream.Pending.decode_put_iff rfl hdata hmeans (by decide),
      hmeans.fitted?_of_takesBeyond (by decide) hbeyond]
    exact nofun

end Session

end LiveTree
