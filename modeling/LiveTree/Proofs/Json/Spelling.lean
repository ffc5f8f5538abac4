import LiveTree.Proofs.Json.Numeral
import LiveTree.Proofs.Json.Quotation

namespace LiveTree

namespace Keyed

variable {α : Type}

theorem insert_behind {key : String} {m : Keyed α} (h : ∀ e ∈ m, e.1 < key) (value : α) :
    m.insert key value = m ++ [(key, value)] := by
  induction m with
  | nil => rfl
  | cons e m ih =>
      obtain ⟨he, hm⟩ := List.forall_mem_cons.1 h
      have hne : key ≠ e.1 := fun hk => String.lt_irrefl _ (hk ▸ he)
      rw [insert, if_neg hne, if_neg (String.lt_asymm he), ih hm, List.cons_append]

end Keyed

namespace Json

open Text.Utf8 (encode encode_cons encode_append)

/-- What stands before a part: a gap, behind a comma unless the part is the first. -/
def partMark (before : List Char) (first : Bool) : List Char :=
  if first then before else ',' :: before

def partsText (before last : List Char) (close : Char) : Bool → List (List Char) → List Char
  | _, [] => last ++ [close]
  | first, t :: ts => partMark before first ++ (t ++ partsText before last close false ts)

def memberText (key : String) (text : List Char) : List Char :=
  renderText key ++ ':' :: text

/-- The texts of a value nested at most so deep, with the characters `gap` between its parts. -/
inductive Spelled (gap : Char → Bool) : Nat → Json → List Char → Prop
  | null (n : Nat) : Spelled gap n .null ['n', 'u', 'l', 'l']
  | bool (n : Nat) (b : Bool) : Spelled gap n (.bool b) (render (.bool b))
  | whole (n : Nat) {k : Int} (h : fits64 k = true) :
      Spelled gap n (.number (.whole k)) (Number.render (.whole k))
  | text (n : Nat) (s : String) : Spelled gap n (.text s) (renderText s)
  | list {n : Nat} {items : List (Json × List Char)} {before last : List Char}
      (hbefore : ∀ c ∈ before, gap c = true) (hlast : ∀ c ∈ last, gap c = true)
      (h : ∀ i ∈ items, Spelled gap n i.1 i.2) :
      Spelled gap (n + 1) (.list (items.map Prod.fst))
        ('[' :: partsText before last ']' true (items.map Prod.snd))
  | object {n : Nat} {members : List (String × Json × List Char)} {before last colon : List Char}
      (hbefore : ∀ c ∈ before, gap c = true) (hlast : ∀ c ∈ last, gap c = true)
      (hcolon : ∀ c ∈ colon, gap c = true)
      (hsorted : Keyed.Sorted (members.map fun m => (m.1, m.2.1)))
      (h : ∀ m ∈ members, Spelled gap n m.2.1 m.2.2) :
      Spelled gap (n + 1) (.object (members.map fun m => (m.1, m.2.1)))
        ('\x7b' :: partsText before last '\x7d' true
          (members.map fun m => memberText m.1 (colon ++ m.2.2)))

section Lengths

variable (before last : List Char) (close : Char)

theorem length_lt_partsText (ts : List (List Char)) :
    ts.length < (partsText before last close false ts).length := by
  induction ts with
  | nil => simp [partsText]
  | cons t ts ih =>
      simp only [partsText, partMark, List.length_append, List.length_cons, Bool.false_eq_true,
        if_false]
      omega

theorem length_le_partsText (ts : List (List Char)) :
    ts.length ≤ (partsText before last close true ts).length := by
  cases ts with
  | nil => simp
  | cons t ts =>
      have := length_lt_partsText before last close ts
      simp only [partsText, List.length_append, List.length_cons]
      omega

theorem length_le_of_mem (first : Bool) {t : List Char} {ts : List (List Char)} (h : t ∈ ts) :
    t.length ≤ (partsText before last close first ts).length := by
  induction ts generalizing first with
  | nil => simp at h
  | cons u ts ih =>
      simp only [partsText, List.length_append]
      rcases List.mem_cons.1 h with rfl | h
      · omega
      · have := ih false h
        omega

end Lengths

section Marks

variable {c : Cursor} {gap : List Char} {rest bytes : List UInt8} {b : UInt8}
  (hgap : ∀ c ∈ gap, isWhite c = true)
include hgap

theorem stopsNumber_partsText {before : List Char} {close : Char}
    (hclose : close = ']' ∨ close = '\x7d') (ts : List (List Char)) (rest : List UInt8) :
    stopsNumber (encode (partsText before gap close false ts) ++ rest) = true := by
  cases ts with
  | cons t ts => rfl
  | nil =>
      rw [partsText, encode_append, List.append_assoc]
      refine stopsNumber_white hgap ?_
      rcases hclose with rfl | rfl <;> rfl

theorem anotherItem_part (first : Bool) (hb : Cursor.isBlank b = false) (hclose : b ≠ 0x5D)
    (hc : c.At (encode (partMark gap first) ++ b :: bytes)) : ∃ now,
    anotherItem first c = .ok (true, ⟨b :: bytes, now⟩) := by
  cases first with
  | true =>
      obtain ⟨now, hnow⟩ := Cursor.At.skipBlanks hb (Cursor.At.white hgap hc)
      exact ⟨now, by simp [anotherItem, hnow, byte?_cons, hclose]⟩
  | false =>
      have hmark : c.At (0x2C :: (encode gap ++ b :: bytes)) := hc
      obtain ⟨comma, hcomma⟩ := hmark.skipBlanks rfl
      obtain ⟨now, hnow⟩ := Cursor.At.skipBlanks hb
        (Cursor.At.white hgap (Cursor.at_mk (encode gap ++ b :: bytes) (comma + 1)))
      exact ⟨now, by simp [anotherItem, hcomma, byte?_cons, next_cons, hnow, hclose]⟩

theorem anotherItem_close (first : Bool) (hc : c.At (encode (gap ++ [']']) ++ rest)) : ∃ now,
    anotherItem first c = .ok (false, ⟨0x5D :: rest, now⟩) := by
  rw [encode_append, List.append_assoc] at hc
  obtain ⟨now, hnow⟩ := Cursor.At.skipBlanks (b := 0x5D) rfl (hc.white hgap)
  exact ⟨now, by simp [anotherItem, hnow, byte?_cons]⟩

theorem anotherMember_part (first : Bool)
    (hc : c.At (encode (partMark gap first) ++ 0x22 :: bytes)) : ∃ now,
    anotherMember first c = .ok (true, ⟨0x22 :: bytes, now⟩) := by
  cases first with
  | true =>
      obtain ⟨now, hnow⟩ := Cursor.At.skipBlanks (b := 0x22) rfl (Cursor.At.white hgap hc)
      exact ⟨now, by simp [anotherMember, hnow, byte?_cons]⟩
  | false =>
      have hmark : c.At (0x2C :: (encode gap ++ 0x22 :: bytes)) := hc
      obtain ⟨comma, hcomma⟩ := hmark.skipBlanks rfl
      obtain ⟨now, hnow⟩ := Cursor.At.skipBlanks (b := 0x22) rfl
        (Cursor.At.white hgap (Cursor.at_mk (encode gap ++ 0x22 :: bytes) (comma + 1)))
      exact ⟨now, by simp [anotherMember, hcomma, byte?_cons, next_cons, hnow]⟩

theorem anotherMember_close (first : Bool) (hc : c.At (encode (gap ++ ['\x7d']) ++ rest)) : ∃ now,
    anotherMember first c = .ok (false, ⟨0x7D :: rest, now⟩) := by
  rw [encode_append, List.append_assoc] at hc
  obtain ⟨now, hnow⟩ := Cursor.At.skipBlanks (b := 0x7D) rfl (hc.white hgap)
  exact ⟨now, by simp [anotherMember, hnow, byte?_cons]⟩

theorem exists_readColon (hc : c.At (encode gap ++ 0x3A :: rest)) : ∃ now,
    readColon c = .ok ((), ⟨rest, now⟩) := by
  obtain ⟨now, hnow⟩ := Cursor.At.skipBlanks (b := 0x3A) rfl (hc.white hgap)
  exact ⟨now + 1, by simp [readColon, hnow, byte?_cons, next_cons]⟩

theorem exists_member (first : Bool) (key : String) (text : List Char) (bytes : List UInt8)
    (hc : c.At (encode (partMark gap first) ++ (encode (memberText key text) ++ bytes))) :
    ∃ start name now, anotherMember first c = .ok (true, start) ∧
      readText start.next = .ok (key, name) ∧
        readColon name = .ok ((), ⟨encode text ++ bytes, now⟩) := by
  let inside := encode (key.toList.flatMap escape ++ ['"']) ++ 0x3A :: (encode text ++ bytes)
  have hmember : encode (memberText key text) ++ bytes = 0x22 :: inside := by
    rw [memberText, renderText, encode_append, encode_cons '"', encode_cons ':', List.append_assoc,
      List.append_assoc, List.append_assoc]
    rfl
  rw [hmember] at hc
  obtain ⟨start, hstart⟩ := anotherMember_part hgap first hc
  obtain ⟨name, hname⟩ := readText_quoted key (0x3A :: (encode text ++ bytes)) (start + 1)
  exact ⟨_, ⟨0x3A :: (encode text ++ bytes), name⟩, name + 1, hstart, hname, rfl⟩

end Marks

section Sequences

variable {α : Type} {before last : List Char} {item : Reader α}

/-- A text that shows at once where it begins, and that it is no closing bracket. -/
def IsVisible (text : List Char) : Prop :=
  ∃ b bytes, encode text = b :: bytes ∧ Cursor.isBlank b = false ∧ b ≠ 0x5D

theorem readItems_parts (hbefore : ∀ c ∈ before, isWhite c = true)
    (hlast : ∀ c ∈ last, isWhite c = true) {items : List (α × List Char)}
    (h : ∀ i ∈ items, IsVisible i.2 ∧ Takes item i.2 i.1) {fuel : Nat}
    (hfuel : items.length < fuel) (first : Bool) (out : List α) (rest : List UInt8)
    (passed : Nat) : ∃ now,
    readItems item fuel first out
        ⟨encode (partsText before last ']' first (items.map Prod.snd)) ++ rest, passed⟩ =
      .ok (out.reverse ++ items.map Prod.fst, ⟨rest, now⟩) := by
  induction items generalizing fuel first out passed with
  | nil =>
      obtain ⟨fuel, rfl⟩ : ∃ m, fuel = m + 1 := Nat.exists_eq_add_one.2 hfuel
      obtain ⟨now, hnow⟩ := anotherItem_close hlast first
        (Cursor.at_mk (encode (last ++ [']']) ++ rest) passed)
      refine ⟨now + 1, ?_⟩
      simp [readItems, partsText, hnow, bind, Except.bind, next_cons]
  | cons i items ih =>
      obtain ⟨⟨⟨b, bytes, htext, hblank, hclose⟩, htakes⟩, hitems⟩ := List.forall_mem_cons.1 h
      obtain ⟨fuel, rfl⟩ : ∃ m, fuel = m + 1 := ⟨fuel - 1, by omega⟩
      let behind := encode (partsText before last ']' false (items.map Prod.snd)) ++ rest
      obtain ⟨start, hstart⟩ := anotherItem_part hbefore first hblank hclose
        (Cursor.at_mk (encode (partMark before first) ++ b :: (bytes ++ behind)) passed)
      obtain ⟨middle, hmiddle⟩ := htakes behind start
        (stopsNumber_partsText hlast (.inl rfl) _ rest)
      obtain ⟨now, hnow⟩ := ih hitems (by simpa using hfuel) false (i.1 :: out) middle
      refine ⟨now, ?_⟩
      have hencode : encode (partsText before last ']' first ((i :: items).map Prod.snd)) ++ rest =
          encode (partMark before first) ++ b :: (bytes ++ behind) := by
        simp [partsText, encode_append, htext, behind]
      rw [htext, List.cons_append] at hmiddle
      rw [hencode, readItems]
      simp only [hstart, hmiddle, bind, Except.bind, if_true]
      rw [hnow, List.reverse_cons, List.append_assoc, List.singleton_append, List.map_cons]

theorem readMembers_parts {colon : List Char} (hbefore : ∀ c ∈ before, isWhite c = true)
    (hlast : ∀ c ∈ last, isWhite c = true) {members : List (String × α × List Char)}
    (h : ∀ m ∈ members, Takes item (colon ++ m.2.2) m.2.1) {fuel : Nat}
    (hfuel : members.length < fuel) (first : Bool) (out : Keyed α)
    (hsorted : (out ++ members.map fun m => (m.1, m.2.1)).Sorted) (rest : List UInt8)
    (passed : Nat) : ∃ now,
    readMembers item fuel first out ⟨encode (partsText before last '\x7d' first
        (members.map fun m => memberText m.1 (colon ++ m.2.2))) ++ rest, passed⟩ =
      .ok (out ++ members.map fun m => (m.1, m.2.1), ⟨rest, now⟩) := by
  induction members generalizing fuel first out passed with
  | nil =>
      obtain ⟨fuel, rfl⟩ : ∃ m, fuel = m + 1 := Nat.exists_eq_add_one.2 hfuel
      obtain ⟨now, hnow⟩ := anotherMember_close hlast first
        (Cursor.at_mk (encode (last ++ ['\x7d']) ++ rest) passed)
      refine ⟨now + 1, ?_⟩
      simp [readMembers, partsText, hnow, bind, Except.bind, next_cons]
  | cons m members ih =>
      obtain ⟨key, x, text⟩ := m
      obtain ⟨htakes, hmembers⟩ := List.forall_mem_cons.1 h
      obtain ⟨fuel, rfl⟩ : ∃ m, fuel = m + 1 := ⟨fuel - 1, by omega⟩
      let behind := encode (partsText before last '\x7d' false
        (members.map fun m => memberText m.1 (colon ++ m.2.2))) ++ rest
      obtain ⟨start, name, colonEnd, hstart, hname, hcolon⟩ :=
        exists_member hbefore first key (colon ++ text) behind (Cursor.at_mk _ passed)
      obtain ⟨middle, hmiddle⟩ := htakes behind colonEnd
        (stopsNumber_partsText hlast (.inr rfl) _ rest)
      have hinsert : out.insert key x = out ++ [(key, x)] := by
        refine Keyed.insert_behind (fun e he => ?_) x
        exact (List.pairwise_append.1 hsorted).2.2 e he (key, x) (by simp)
      obtain ⟨now, hnow⟩ := ih hmembers (by simpa using hfuel) false (out ++ [(key, x)])
        (by simpa using hsorted) middle
      refine ⟨now, ?_⟩
      have hencode : encode (partsText before last '\x7d' first
          (((key, x, text) :: members).map fun m => memberText m.1 (colon ++ m.2.2))) ++ rest =
            encode (partMark before first) ++
              (encode (memberText key (colon ++ text)) ++ behind) := by
        simp [partsText, encode_append, behind]
      rw [hencode, readMembers]
      simp only [hstart, hname, hcolon, hmiddle, hinsert, bind, Except.bind, if_true]
      rw [hnow, List.append_assoc, List.singleton_append, List.map_cons]

end Sequences

section Values

variable {gap : Char → Bool} {n fuel depth : Nat} {j : Json} {t : List Char}

theorem readValue_congr {c d : Cursor} (h : c.skipBlanks = d.skipBlanks) :
    readValue fuel depth c = readValue fuel depth d := by
  simp only [readValue, h]

theorem readValue_scalar {b : UInt8} (hb : Cursor.isBlank b = false) (hlist : b ≠ 0x5B)
    (hobject : b ≠ 0x7B) (bytes : List UInt8) (passed : Nat) :
    readValue fuel (depth + 1) ⟨b :: bytes, passed⟩ = readScalar b ⟨b :: bytes, passed⟩ := by
  simp [readValue, skipBlanks_of_not hb, byte?_cons, hlist, hobject]

theorem readValue_list {bytes : List UInt8} {passed : Nat} {xs : List Json} {c : Cursor}
    (hdepth : 0 < depth)
    (h : readItems (readValue fuel depth) fuel true [] ⟨bytes, passed + 1⟩ = .ok (xs, c)) :
    readValue fuel (depth + 1) ⟨0x5B :: bytes, passed⟩ = .ok (.list xs, c) := by
  have hdeep : ¬ depth + 1 ≤ 1 := by omega
  have hblank : Cursor.skipBlanks ⟨0x5B :: bytes, passed⟩ = ⟨0x5B :: bytes, passed⟩ := rfl
  simp only [readValue, hblank, byte?_cons, if_true, enter, if_neg hdeep, next_cons, h, bind,
    Except.bind]

theorem readValue_object {bytes : List UInt8} {passed : Nat} {ms : Keyed Json} {c : Cursor}
    (hdepth : 0 < depth)
    (h : readMembers (readValue fuel depth) fuel true [] ⟨bytes, passed + 1⟩ = .ok (ms, c)) :
    readValue fuel (depth + 1) ⟨0x7B :: bytes, passed⟩ = .ok (.object ms, c) := by
  have hdeep : ¬ depth + 1 ≤ 1 := by omega
  have hblank : Cursor.skipBlanks ⟨0x7B :: bytes, passed⟩ = ⟨0x7B :: bytes, passed⟩ := rfl
  have hlist : (0x7B : UInt8) ≠ 0x5B := by decide
  simp only [readValue, hblank, byte?_cons, if_neg hlist, if_true, enter, if_neg hdeep, next_cons,
    h, bind, Except.bind]

theorem Takes.behind_gap {before : List Char} (hbefore : ∀ c ∈ before, isGap c = true)
    (ht : IsVisible t) (h : Takes (readValue fuel depth) t j) :
    Takes (readValue fuel depth) (before ++ t) j := by
  intro rest passed hrest
  obtain ⟨b, bytes, htext, hblank, -⟩ := ht
  have hat : Cursor.At ⟨encode (before ++ t) ++ rest, passed⟩ (b :: (bytes ++ rest)) := by
    rw [encode_append, htext, List.append_assoc]
    exact Cursor.At.white (white_of_gap hbefore) rfl
  obtain ⟨start, hstart⟩ := hat.skipBlanks hblank
  obtain ⟨now, hnow⟩ := h rest start hrest
  refine ⟨now, ?_⟩
  rw [← hnow, htext]
  apply readValue_congr
  rw [hstart, List.cons_append, skipBlanks_of_not hblank]

theorem exists_encode_whole {k : Int} (h : fits64 k = true) : ∃ b bytes,
    encode (Number.render (.whole k)) = b :: bytes ∧ isNumberStart b = true := by
  obtain ⟨hlow, hhigh⟩ : -0x8000000000000000 ≤ k ∧ k < 0x10000000000000000 := by simpa [fits64] using h
  obtain ⟨d, ds, hdigits, hlt, -⟩ := exists_digits (n := k.natAbs) (by omega)
  have hd := isDigit_digitByte d (List.forall_mem_cons.1 hlt).1
  rw [Number.render, hdigits]
  split
  · exact ⟨0x2D, _, rfl, rfl⟩
  · rw [encode_digits hlt]
    exact ⟨digitByte d, _, rfl, by rw [isNumberStart, hd, Bool.or_true]⟩

theorem ne_of_isNumberStart {b : UInt8} (h : isNumberStart b = true) :
    Cursor.isBlank b = false ∧ b ≠ 0x5D ∧ b ≠ 0x5B ∧ b ≠ 0x7B ∧ b ≠ 0x6E ∧ b ≠ 0x74 ∧ b ≠ 0x66 := by
  have hne (a : UInt8) (ha : isNumberStart a = false) : b ≠ a := by
    rintro rfl
    rw [ha] at h
    exact nomatch h
  refine ⟨?_, hne _ rfl, hne _ rfl, hne _ rfl, hne _ rfl, hne _ rfl, hne _ rfl⟩
  simp only [Cursor.isBlank, Bool.or_eq_false_iff, decide_eq_false_iff_not]
  exact ⟨⟨⟨hne _ rfl, hne _ rfl⟩, hne _ rfl⟩, hne _ rfl⟩

theorem Spelled.exists_head (h : Spelled gap n j t) : ∃ b bytes, encode t = b :: bytes ∧
    Cursor.isBlank b = false ∧ b ≠ 0x5D ∧ (b = 0x6E → j = .null) := by
  cases h with
  | null => exact ⟨0x6E, _, rfl, rfl, by decide, fun _ => rfl⟩
  | bool _ b =>
      cases b with
      | true => exact ⟨0x74, _, rfl, rfl, by decide, by decide⟩
      | false => exact ⟨0x66, _, rfl, rfl, by decide, by decide⟩
  | text => exact ⟨0x22, _, rfl, rfl, by decide, fun h => absurd h (by decide)⟩
  | list => exact ⟨0x5B, _, rfl, rfl, by decide, fun h => absurd h (by decide)⟩
  | object => exact ⟨0x7B, _, rfl, rfl, by decide, fun h => absurd h (by decide)⟩
  | whole _ hk =>
      obtain ⟨b, bytes, htext, hb⟩ := exists_encode_whole hk
      obtain ⟨hblank, hclose, -, -, hn, -⟩ := ne_of_isNumberStart hb
      exact ⟨b, bytes, htext, hblank, hclose, fun h => absurd h hn⟩

theorem Spelled.isVisible (h : Spelled gap n j t) : IsVisible t := by
  obtain ⟨b, bytes, htext, hblank, hclose, -⟩ := h.exists_head
  exact ⟨b, bytes, htext, hblank, hclose⟩

theorem takes_null : Takes (readValue fuel (depth + 1)) ['n', 'u', 'l', 'l'] .null :=
  fun _ passed _ => ⟨passed + 4, readValue_scalar rfl (by decide) (by decide) _ passed⟩

theorem takes_bool (b : Bool) :
    Takes (readValue fuel (depth + 1)) (render (.bool b)) (.bool b) := by
  intro rest passed _
  cases b with
  | true => exact ⟨passed + 4, readValue_scalar rfl (by decide) (by decide) _ passed⟩
  | false => exact ⟨passed + 5, readValue_scalar rfl (by decide) (by decide) _ passed⟩

theorem takes_whole {k : Int} (hk : fits64 k = true) :
    Takes (readValue fuel (depth + 1)) (Number.render (.whole k)) (.number (.whole k)) := by
  intro rest passed hrest
  obtain ⟨b, bytes, htext, hb⟩ := exists_encode_whole hk
  obtain ⟨hblank, -, hlist, hobject, hn, htrue, hfalse⟩ := ne_of_isNumberStart hb
  obtain ⟨now, hnow⟩ := readNumber_whole hk rest passed hrest
  refine ⟨now, ?_⟩
  rw [htext, List.cons_append] at hnow ⊢
  rw [readValue_scalar hblank hlist hobject, readScalar, if_neg hn, if_neg htrue, if_neg hfalse,
    if_pos hb, hnow]
  rfl

theorem takes_quoted (s : String) :
    Takes (readValue fuel (depth + 1)) (renderText s) (.text s) := by
  intro rest passed _
  obtain ⟨now, hnow⟩ := readScalar_quoted s rest passed
  refine ⟨now, ?_⟩
  have hencode : encode (renderText s) ++ rest =
      0x22 :: (encode (s.toList.flatMap escape ++ ['"']) ++ rest) := rfl
  rw [hencode, readValue_scalar rfl (by decide) (by decide), hnow]

section Brackets

variable {before last : List Char}

theorem takes_list (hbefore : ∀ c ∈ before, isGap c = true) (hlast : ∀ c ∈ last, isGap c = true)
    {items : List (Json × List Char)} (hdepth : 0 < depth)
    (hitems : ∀ i ∈ items, IsVisible i.2 ∧ Takes (readValue fuel depth) i.2 i.1)
    (hfuel : items.length < fuel) :
    Takes (readValue fuel (depth + 1)) ('[' :: partsText before last ']' true (items.map Prod.snd))
      (.list (items.map Prod.fst)) := by
  intro rest passed _
  obtain ⟨now, hnow⟩ := readItems_parts (white_of_gap hbefore) (white_of_gap hlast) hitems hfuel
    true [] rest (passed + 1)
  exact ⟨now, readValue_list hdepth hnow⟩

theorem takes_object (hbefore : ∀ c ∈ before, isGap c = true) (hlast : ∀ c ∈ last, isGap c = true)
    {members : List (String × Json × List Char)} {colon : List Char} (hdepth : 0 < depth)
    (hsorted : Keyed.Sorted (members.map fun m => (m.1, m.2.1)))
    (hmembers : ∀ m ∈ members, Takes (readValue fuel depth) (colon ++ m.2.2) m.2.1)
    (hfuel : members.length < fuel) :
    Takes (readValue fuel (depth + 1)) ('\x7b' :: partsText before last '\x7d' true
        (members.map fun m => memberText m.1 (colon ++ m.2.2)))
      (.object (members.map fun m => (m.1, m.2.1))) := by
  intro rest passed _
  obtain ⟨now, hnow⟩ := readMembers_parts (white_of_gap hbefore) (white_of_gap hlast) hmembers hfuel
    true [] hsorted rest (passed + 1)
  exact ⟨now, readValue_object hdepth hnow⟩

end Brackets

theorem Spelled.takes (hgap : ∀ c, gap c = true → isGap c = true) (h : Spelled gap n j t)
    (hdepth : n < depth) (hfuel : t.length < fuel) : Takes (readValue fuel depth) t j := by
  obtain ⟨depth, rfl⟩ : ∃ m, depth = m + 1 := Nat.exists_eq_add_one.2 (Nat.zero_lt_of_lt hdepth)
  induction h generalizing depth with
  | null => exact takes_null
  | bool _ b => exact takes_bool b
  | whole _ hk => exact takes_whole hk
  | text _ s => exact takes_quoted s
  | @list n items before last hbefore hlast h ih =>
      obtain ⟨depth, rfl⟩ : ∃ m, depth = m + 1 := ⟨depth - 1, by omega⟩
      simp only [List.length_cons] at hfuel
      have hcount := length_le_partsText before last ']' (items.map Prod.snd)
      rw [List.length_map] at hcount
      refine takes_list (fun c hc => hgap c (hbefore c hc)) (fun c hc => hgap c (hlast c hc))
        (by omega) (fun i hi => ?_) (by omega)
      have hmem : i.2 ∈ items.map Prod.snd := List.mem_map.2 ⟨i, hi, rfl⟩
      have hlength := length_le_of_mem before last ']' true hmem
      exact ⟨(h i hi).isVisible, ih i hi (by omega) depth (by omega)⟩
  | @object n members before last colon hbefore hlast hcolon hsorted h ih =>
      obtain ⟨depth, rfl⟩ : ∃ m, depth = m + 1 := ⟨depth - 1, by omega⟩
      simp only [List.length_cons] at hfuel
      have hcount := length_le_partsText before last '\x7d'
        (members.map fun m => memberText m.1 (colon ++ m.2.2))
      rw [List.length_map] at hcount
      refine takes_object (fun c hc => hgap c (hbefore c hc)) (fun c hc => hgap c (hlast c hc))
        (by omega) hsorted (fun m hm => ?_) (by omega)
      have hmem : memberText m.1 (colon ++ m.2.2) ∈
          members.map fun m => memberText m.1 (colon ++ m.2.2) :=
        List.mem_map.2 ⟨m, hm, rfl⟩
      have hlength := length_le_of_mem before last '\x7d' true hmem
      have hmember : m.2.2.length ≤ (memberText m.1 (colon ++ m.2.2)).length := by
        simp only [memberText, List.length_append, List.length_cons]
        omega
      exact (ih m hm (by omega) depth (by omega)).behind_gap (fun c hc => hgap c (hcolon c hc))
        (h m hm).isVisible

theorem Spelled.ofBytes (hgap : ∀ c, gap c = true → isGap c = true)
    (h : Spelled gap (depthBudget - 1) j t) : ofBytes (encode t) = .ok j := by
  have hlength := Text.Utf8.length_le_encode t
  have htakes : Takes (readValue (fuelFor (encode t)) depthBudget) t j :=
    h.takes hgap (by decide) (Nat.lt_succ_of_le hlength)
  exact htakes.readWhole

end Values

end Json

end LiveTree
