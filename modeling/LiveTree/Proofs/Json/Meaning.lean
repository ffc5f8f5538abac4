import LiveTree.Proofs.Json.Decimals
import LiveTree.Proofs.Json.Glyphs

namespace LiveTree.Json

open Text.Utf8 (encode encode_cons encode_append)

variable {α : Type}

theorem ok_bind {β : Type} (x : α) (f : α → Except Flaw β) : (Except.ok x >>= f) = f x :=
  rfl

section Scalars

/-- What the first byte of a text without parts tells, and what reading from it comes to. -/
structure ScalarHead (b : UInt8) (bytes : List UInt8) (o : Option Json) : Prop where
  visible : Cursor.isBlank b = false
  apart : b ≠ 0x5B ∧ b ≠ 0x7B ∧ b ≠ 0x5D ∧ b ≠ 0x0C
  null_iff : b = 0x6E ↔ o = some .null
  misfit (s : ScalarShape) (h : s.startsWith b = false) :
    o.bind (fun j => (s.fit j).toOption) = none
  reads (rest : List UInt8) (passed : Nat) (h : stopsNumber rest = true) :
    Reaches rest (readScalar b ⟨b :: (bytes ++ rest), passed⟩) o

theorem exists_encode_numeral (l : Numeral) : ∃ b bytes,
    encode l.text = b :: bytes ∧ isNumberStart b = true := by
  rw [Numeral.text]
  cases l.negative with
  | true => exact ⟨0x2D, _, rfl, rfl⟩
  | false =>
      have hdigit := isDigit_digitByte l.first l.first.isLt
      refine ⟨digitByte l.first,
        encode (digitsText l.more) ++ encode (tailText l.fraction l.exponent), ?_, ?_⟩
      · rw [if_neg Bool.false_ne_true, List.nil_append, encode_append, encode_digitsText_cons,
          List.cons_append]
      · rw [isNumberStart, hdigit, Bool.or_true]

theorem readScalar_number {b : UInt8} (h : isNumberStart b = true) (c : Cursor) :
    readScalar b c = readNumber c >>= fun r => .ok (.number r.1, r.2) := by
  obtain ⟨-, -, -, -, hn, ht, hf⟩ := ne_of_isNumberStart h
  rw [readScalar, if_neg hn, if_neg ht, if_neg hf, if_pos h]

theorem scalarHead_number (l : Numeral) : ∃ b bytes, encode l.text = b :: bytes ∧
    ScalarHead b bytes (l.value?.map .number) := by
  obtain ⟨b, bytes, hencode, hb⟩ := exists_encode_numeral l
  obtain ⟨hblank, hclose, hlist, hobject, hn, -, -⟩ := ne_of_isNumberStart hb
  have hfeed : b ≠ 0x0C := by
    rintro rfl
    cases hb
  refine ⟨b, bytes, hencode, hblank, ⟨hlist, hobject, hclose, hfeed⟩, ?_, fun s hs => ?_,
    fun rest passed hrest => ?_⟩
  · cases l.value? with
    | none => simp [hn]
    | some n => simp [hn]
  · cases l.value? with
    | none => rfl
    | some n =>
        cases s with
        | integer t | double => exact absurd (hs.symm.trans hb) Bool.false_ne_true
        | boolean | text | unit => rfl
  · have hreach := settles_number l rest passed hrest
    rw [hencode, List.cons_append] at hreach
    rw [readScalar_number hb]
    exact hreach.map Json.number

theorem scalarHead_text (gs : List Glyph) : ScalarHead 0x22
    (encode (gs.flatMap Glyph.text ++ ['"'])) ((written gs).map .text) := by
  refine ⟨rfl, by decide, ?_, fun s hs => ?_, fun rest passed _ => ?_⟩
  · cases written gs with
    | none => simp
    | some s => simp
  · cases written gs with
    | none => rfl
    | some text =>
        cases s with
        | text => cases hs
        | integer | double | boolean | unit => rfl
  · exact (reaches_readText gs (passed + 1)).map Json.text

theorem MeansScalar.exists_head {t : List Char} {o : Option Json} (h : MeansScalar t o) :
    ∃ b bytes, encode t = b :: bytes ∧ ScalarHead b bytes o := by
  cases h with
  | null =>
      refine ⟨0x6E, _, rfl, rfl, by decide, by simp, fun s hs => ?_,
        fun rest passed _ => .found _ rfl⟩
      cases s with
      | unit => cases hs
      | integer | double | boolean | text => rfl
  | bool b =>
      cases b with
      | true =>
          refine ⟨0x74, _, rfl, rfl, by decide, by simp, fun s hs => ?_,
            fun rest passed _ => .found _ rfl⟩
          cases s with
          | boolean => cases hs
          | integer | double | text | unit => rfl
      | false =>
          refine ⟨0x66, _, rfl, rfl, by decide, by simp, fun s hs => ?_,
            fun rest passed _ => .found _ rfl⟩
          cases s with
          | boolean => cases hs
          | integer | double | text | unit => rfl
  | number l => exact scalarHead_number l
  | text gs => exact ⟨0x22, _, rfl, scalarHead_text gs⟩

end Scalars

section Items

variable {c : Cursor} {rest : List UInt8} {gap t : List Char}

/-- Behind its blanks a text begins with no closing bracket, and with no form feed. -/
def Shows (t : List Char) : Prop :=
  ∃ before b bytes, (∀ c ∈ before, isWhite c = true) ∧ encode t = encode before ++ b :: bytes ∧
    Cursor.isBlank b = false ∧ b ≠ 0x5D ∧ b ≠ 0x0C

theorem anotherItem_shown (first : Bool) (ht : Shows t)
    (hc : c.At (encode (partMark [] first) ++ (encode t ++ rest))) : ∃ start,
    anotherItem first c = .ok (true, start) ∧ start.At (encode t ++ rest) := by
  obtain ⟨before, b, bytes, hbefore, hencode, hb, hclose, -⟩ := ht
  have hmark : encode (partMark [] first) ++ encode before = encode (partMark before first) := by
    cases first <;> rfl
  rw [hencode, List.append_assoc, ← List.append_assoc, hmark] at hc
  obtain ⟨now, hnow⟩ := anotherItem_part hbefore first hb hclose hc
  refine ⟨_, hnow, ?_⟩
  rw [hencode, List.append_assoc]
  exact (behindBlanks_white hbefore _).symm

theorem mapM_snd_cons (i : List Char × Option α) (items : List (List Char × Option α)) :
    (i :: items).mapM Prod.snd = i.2.bind fun x => (items.mapM Prod.snd).map (x :: ·) := by
  rw [List.mapM_cons]
  cases i.2 with
  | none => rfl
  | some x => cases items.mapM Prod.snd <;> rfl

theorem reaches_readItems {item : Reader α} {items : List (List Char × Option α)}
    (hgap : ∀ c ∈ gap, isWhite c = true)
    (h : ∀ i ∈ items, Shows i.1 ∧ Settles item i.1 i.2) {fuel : Nat}
    (hfuel : items.length < fuel) (first : Bool) (out : List α)
    (hc : c.At (encode (partsText [] gap ']' first (items.map Prod.fst)) ++ rest)) :
    Reaches rest (readItems item fuel first out c)
      ((items.mapM Prod.snd).map (out.reverse ++ ·)) := by
  induction items generalizing fuel first out c with
  | nil =>
      obtain ⟨fuel, rfl⟩ : ∃ m, fuel = m + 1 := Nat.exists_eq_add_one.2 hfuel
      obtain ⟨now, hnow⟩ := anotherItem_close hgap first hc
      have hread : readItems item (fuel + 1) first out c =
          .ok (out.reverse ++ [], ⟨rest, now + 1⟩) := by
        simp [readItems, hnow, ok_bind, next_cons]
      exact hread ▸ .found _ rfl
  | cons i items ih =>
      obtain ⟨⟨hshow, hsettle⟩, hitems⟩ := List.forall_mem_cons.1 h
      obtain ⟨fuel, rfl⟩ : ∃ m, fuel = m + 1 := ⟨fuel - 1, by omega⟩
      rw [List.map_cons, partsText, encode_append, encode_append, List.append_assoc,
        List.append_assoc] at hc
      obtain ⟨start, hstart, hat⟩ := anotherItem_shown first hshow hc
      have hitem := hsettle _ start (stopsNumber_partsText hgap (.inl rfl) _ rest) hat
      have hmeaning : ((i :: items).mapM Prod.snd).map (out.reverse ++ ·) =
          i.2.bind fun x => (items.mapM Prod.snd).map ((x :: out).reverse ++ ·) := by
        rw [mapM_snd_cons]
        cases i.2 with
        | none => rfl
        | some x => cases items.mapM Prod.snd <;> simp
      rw [readItems, hstart, ok_bind, hmeaning]
      exact hitem.bind fun x c hc => ih hitems (by simpa using hfuel) false (x :: out) hc

end Items

section Members

variable {c : Cursor} {rest : List UInt8} {gap : List Char}

theorem gather_nil (out : Keyed α) : gather [] out = some out :=
  rfl

theorem gather_cons (key : Option String) (x : Option α) (members : List (Option String × Option α))
    (out : Keyed α) : gather ((key, x) :: members) out =
      key.bind fun key => x.bind fun x => gather members (out.insert key x) := by
  rw [gather, List.foldlM_cons]
  cases key with
  | none => rfl
  | some key => cases x <;> rfl

theorem anotherMember_label (first : Bool) (l : Label) {bytes : List UInt8}
    (hc : c.At (encode (partMark [] first) ++ (encode l.text ++ bytes))) : ∃ start,
    anotherMember first c = .ok (true, ⟨0x22 :: (encode (l.glyphs.flatMap Glyph.text ++ ['"']) ++
      (encode l.after ++ bytes)), start⟩) := by
  let inside := encode (l.glyphs.flatMap Glyph.text ++ ['"']) ++ (encode l.after ++ bytes)
  have hencode : encode l.text ++ bytes = encode l.before ++ 0x22 :: inside := by
    rw [Label.text, quotedText, encode_append, encode_append, List.append_assoc, List.append_assoc,
      encode_cons, List.append_assoc]
    rfl
  have hmark : encode (partMark [] first) ++ encode l.before = encode (partMark l.before first) := by
    cases first <;> rfl
  rw [hencode, ← List.append_assoc, hmark] at hc
  exact anotherMember_part l.white.1 first hc

theorem reaches_readMembers {item : Reader α} {members : List (Label × List Char × Option α)}
    (hgap : ∀ c ∈ gap, isWhite c = true) (h : ∀ m ∈ members, Settles item m.2.1 m.2.2) {fuel : Nat}
    (hfuel : members.length < fuel) (first : Bool) (out : Keyed α)
    (hc : c.At (encode (partsText [] gap '\x7d' first
      (members.map fun m => m.1.text ++ ':' :: m.2.1)) ++ rest)) :
    Reaches rest (readMembers item fuel first out c)
      (gather (members.map fun m => (m.1.key?, m.2.2)) out) := by
  induction members generalizing fuel first out c with
  | nil =>
      obtain ⟨fuel, rfl⟩ : ∃ m, fuel = m + 1 := Nat.exists_eq_add_one.2 hfuel
      obtain ⟨now, hnow⟩ := anotherMember_close hgap first hc
      have hread : readMembers item (fuel + 1) first out c = .ok (out, ⟨rest, now + 1⟩) := by
        simp [readMembers, hnow, ok_bind, next_cons]
      exact hread ▸ .found _ rfl
  | cons m members ih =>
      obtain ⟨l, t, o⟩ := m
      obtain ⟨hsettle, hmembers⟩ := List.forall_mem_cons.1 h
      obtain ⟨fuel, rfl⟩ : ∃ m, fuel = m + 1 := ⟨fuel - 1, by omega⟩
      let behind := encode (partsText [] gap '\x7d' false
        (members.map fun m => m.1.text ++ ':' :: m.2.1)) ++ rest
      have hencode : encode (partsText [] gap '\x7d' first
          (((l, t, o) :: members).map fun m => m.1.text ++ ':' :: m.2.1)) ++ rest =
            encode (partMark [] first) ++ (encode l.text ++ 0x3A :: (encode t ++ behind)) := by
        rw [List.map_cons, partsText, encode_append, encode_append, encode_append, encode_cons ':']
        simp [behind]
        rfl
      rw [hencode] at hc
      obtain ⟨start, hstart⟩ := anotherMember_label first l hc
      have hkey : Reaches (encode l.after ++ 0x3A :: (encode t ++ behind)) _ l.key? :=
        reaches_readText l.glyphs (start + 1)
      rw [readMembers, hstart, ok_bind, List.map_cons, gather_cons]
      refine hkey.bind fun key c hc => ?_
      obtain ⟨now, hcolon⟩ := exists_readColon l.white.2 hc
      have hitem := hsettle behind ⟨encode t ++ behind, now⟩
        (stopsNumber_partsText hgap (.inr rfl) _ rest) rfl
      simp only [hcolon, ok_bind]
      exact hitem.bind fun x c hc => ih hmembers (by simpa using hfuel) false (out.insert key x) hc

end Members

section Values

variable {n fuel depth : Nat} {t : List Char} {o : Option Json} {c : Cursor}

theorem readValue_scalarHead {b : UInt8} {bytes : List UInt8} (hhead : ScalarHead b bytes o)
    (hc : c.skipBlanks.byte? = some b) : readValue fuel depth c = readScalar b c.skipBlanks := by
  obtain ⟨hlist, hobject, -⟩ := hhead.apart
  cases depth <;> simp [readValue, hc, hlist, hobject]

theorem readValue_bracket {bytes : List UInt8} {now : Nat} (hdepth : 0 < depth)
    (hc : c.skipBlanks = ⟨0x5B :: bytes, now⟩) :
    readValue fuel (depth + 1) c =
      readItems (readValue fuel depth) fuel true [] ⟨bytes, now + 1⟩ >>= fun r =>
        .ok (.list r.1, r.2) := by
  have hdeep : ¬ depth + 1 ≤ 1 := by omega
  simp only [readValue, hc, byte?_cons, if_true, enter, if_neg hdeep, next_cons]

theorem readValue_brace {bytes : List UInt8} {now : Nat} (hdepth : 0 < depth)
    (hc : c.skipBlanks = ⟨0x7B :: bytes, now⟩) :
    readValue fuel (depth + 1) c =
      readMembers (readValue fuel depth) fuel true [] ⟨bytes, now + 1⟩ >>= fun r =>
        .ok (.object r.1, r.2) := by
  have hdeep : ¬ depth + 1 ≤ 1 := by omega
  have hlist : (0x7B : UInt8) ≠ 0x5B := by decide
  simp only [readValue, hc, byte?_cons, if_neg hlist, if_true, enter, if_neg hdeep, next_cons]

theorem MeansScalar.settles (h : MeansScalar t o) : Settles (readValue fuel depth) t o := by
  intro rest c hrest hc
  obtain ⟨b, bytes, hencode, hhead⟩ := h.exists_head
  rw [hencode, List.cons_append] at hc
  obtain ⟨now, hnow⟩ := hc.skipBlanks hhead.visible
  rw [readValue_scalarHead hhead (by rw [hnow, byte?_cons]), hnow]
  exact hhead.reads rest now hrest

theorem Shows.padded {before after : List Char} (hbefore : ∀ c ∈ before, isWhite c = true)
    (h : Shows t) : Shows (before ++ (t ++ after)) := by
  obtain ⟨gap, b, bytes, hgap, hencode, hb⟩ := h
  refine ⟨before ++ gap, b, bytes ++ encode after, ?_, ?_, hb⟩
  · exact fun c hc => (List.mem_append.1 hc).elim (hbefore c) (hgap c)
  · rw [encode_append, encode_append, encode_append, hencode, List.append_assoc, List.append_assoc,
      List.cons_append]

theorem Means.shows (h : Means n t o) : Shows t := by
  induction h with
  | scalar n h =>
      obtain ⟨b, bytes, hencode, hhead⟩ := h.exists_head
      obtain ⟨-, -, hclose, hfeed⟩ := hhead.apart
      exact ⟨[], b, bytes, List.forall_mem_nil _, hencode, hhead.visible, hclose, hfeed⟩
  | padded hbefore hafter h ih => exact ih.padded hbefore
  | list | object => exact ⟨[], _, _, List.forall_mem_nil _, rfl, rfl, by decide, by decide⟩

theorem Means.settles (h : Means n t o) (hdepth : n < depth) (hfuel : t.length < fuel) :
    Settles (readValue fuel depth) t o := by
  induction h generalizing depth with
  | scalar n h => exact h.settles
  | padded hbefore hafter h ih =>
      simp only [List.length_append] at hfuel
      exact (ih hdepth (by omega)).padded hbefore hafter
  | @list n items gap hgap h ih =>
      intro rest c _ hc
      obtain ⟨depth, rfl⟩ : ∃ m, depth = m + 1 := ⟨depth - 1, by omega⟩
      simp only [List.length_cons] at hfuel
      have hitems : ∀ i ∈ items, Shows i.1 ∧ Settles (readValue fuel depth) i.1 i.2 := by
        intro i hi
        have hmem : i.1 ∈ items.map Prod.fst := List.mem_map.2 ⟨i, hi, rfl⟩
        have hlength := length_le_of_mem [] gap ']' true hmem
        exact ⟨(h i hi).shows, ih i hi (by omega) (by omega)⟩
      have hcount := length_le_partsText [] gap ']' (items.map Prod.fst)
      rw [List.length_map] at hcount
      obtain ⟨now, hnow⟩ := Cursor.At.skipBlanks (b := 0x5B) rfl hc
      have hread := reaches_readItems hgap hitems (show items.length < fuel by omega) true []
        (Cursor.at_mk (encode (partsText [] gap ']' true (items.map Prod.fst)) ++ rest) (now + 1))
      have hall : (items.mapM Prod.snd).map (([] : List Json).reverse ++ ·) =
          items.mapM Prod.snd := by
        cases items.mapM Prod.snd <;> rfl
      rw [hall] at hread
      rw [readValue_bracket (by omega) hnow]
      exact hread.map Json.list
  | @object n members gap hgap hkeys h ih =>
      intro rest c _ hc
      obtain ⟨depth, rfl⟩ : ∃ m, depth = m + 1 := ⟨depth - 1, by omega⟩
      let texts := members.map fun m => m.1.text ++ ':' :: m.2.1
      change (partsText [] gap '\x7d' true texts).length + 1 < fuel at hfuel
      have hmembers : ∀ m ∈ members, Settles (readValue fuel depth) m.2.1 m.2.2 := by
        intro m hm
        have hmem : m.1.text ++ ':' :: m.2.1 ∈ texts := List.mem_map.2 ⟨m, hm, rfl⟩
        have hlength := length_le_of_mem [] gap '\x7d' true hmem
        rw [List.length_append, List.length_cons] at hlength
        exact ih m hm (by omega) (by omega)
      have hcount := length_le_partsText [] gap '\x7d' texts
      rw [List.length_map] at hcount
      obtain ⟨now, hnow⟩ := Cursor.At.skipBlanks (b := 0x7B) rfl hc
      have hread := reaches_readMembers hgap hmembers (show members.length < fuel by omega) true []
        (Cursor.at_mk (encode (partsText [] gap '\x7d' true texts) ++ rest) (now + 1))
      rw [readValue_brace (by omega) hnow]
      exact hread.map Json.object

end Values

end LiveTree.Json
