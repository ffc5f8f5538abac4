import LiveTree.Json.Record
import LiveTree.Proofs.Json.Spelling

namespace LiveTree

namespace Json

open Text.Utf8 (encode encode_cons encode_append)

section Readers

variable {α β : Type} {t gap : List Char}

theorem Takes.map {r : Reader α} {x : α} (h : Takes r t x) (f : α → β) :
    Takes (fun c => do let (x, c) ← r c; .ok (f x, c)) t (f x) := by
  intro rest passed hrest
  obtain ⟨now, hnow⟩ := h rest passed hrest
  exact ⟨now, by simp only [hnow, bind, Except.bind]⟩

theorem takes_text (hgap : ∀ c ∈ gap, isGap c = true) (s : String) :
    Takes ScalarShape.text.read (gap ++ renderText s) (.text s) := by
  intro rest passed _
  let inside := encode (s.toList.flatMap escape ++ ['"']) ++ rest
  have hencode : encode (gap ++ renderText s) ++ rest = encode gap ++ 0x22 :: inside := by
    rw [encode_append, List.append_assoc]
    rfl
  obtain ⟨start, hstart⟩ := Cursor.At.skipBlanks (b := 0x22) rfl
    (Cursor.At.white (white_of_gap hgap) (Cursor.at_mk (encode gap ++ 0x22 :: inside) passed))
  obtain ⟨now, hscalar⟩ := readScalar_quoted s rest start
  refine ⟨now, ?_⟩
  change readScalar 0x22 ⟨0x22 :: inside, start⟩ = _ at hscalar
  have hfit : fitted (ScalarShape.text.fit (.text s)) ⟨rest, now⟩ = .ok (.text s, ⟨rest, now⟩) := rfl
  have hquote : ScalarShape.text.startsWith 0x22 = true := rfl
  rw [ScalarShape.read_eq rfl, ScalarShape.readFitted, hencode, firstByte_eq hstart]
  simp only [bind, Except.bind, hquote, if_true, hscalar, hfit]

end Readers

section Records

variable {σ α : Type} {r : Record σ α} {bound fuel : Nat} {before last : List Char}

/-- The texts of some members give their fields to a draft, one after the other. -/
inductive FieldRun (r : Record σ α) (bound : Nat) : σ → List (List Char) → σ → Prop
  | nil (s : σ) : FieldRun r bound s [] s
  | cons {s s' s'' : σ} {key : String} {text : List Char} {ts : List (List Char)} {f : Field σ}
      (hfind : (r.fields bound).find? (·.name = key) = some f) (hset : f.isSet s = false)
      (htakes : Takes (f.read s) text s') (h : FieldRun r bound s' ts s'') :
      FieldRun r bound s (memberText key text :: ts) s''

variable (fuel) in
theorem readFieldsByName_member (hbefore : ∀ c ∈ before, isGap c = true) {s : σ} {key : String}
    {f : Field σ} (hfind : (r.fields bound).find? (·.name = key) = some f) (hset : f.isSet s = false)
    (first : Bool) (text : List Char) (bytes : List UInt8) (passed : Nat) : ∃ now,
    readFieldsByName r bound (fuel + 1) first s
        ⟨encode (partMark before first) ++ (encode (memberText key text) ++ bytes), passed⟩ =
      f.read s ⟨encode text ++ bytes, now⟩ >>= fun x =>
        readFieldsByName r bound fuel false x.1 x.2 := by
  obtain ⟨start, name, colonEnd, hstart, hname, hcolon⟩ :=
    exists_member (white_of_gap hbefore) first key text bytes (Cursor.at_mk _ passed)
  refine ⟨colonEnd, ?_⟩
  simp only [readFieldsByName, hstart, hname, hcolon, hfind, hset, bind, Except.bind, if_true,
    Bool.false_eq_true, if_false]

theorem readFieldsByName_run (hbefore : ∀ c ∈ before, isGap c = true)
    (hlast : ∀ c ∈ last, isGap c = true) {s s' : σ} {ts : List (List Char)}
    (h : FieldRun r bound s ts s') {x : α} (hfinish : r.finish s' = .ok x)
    (hfuel : ts.length < fuel) (first : Bool) (rest : List UInt8) (passed : Nat) : ∃ now,
    readFieldsByName r bound fuel first s
        ⟨encode (partsText before last '\x7d' first ts) ++ rest, passed⟩ = .ok (x, ⟨rest, now⟩) := by
  induction h generalizing fuel first passed with
  | nil s =>
      obtain ⟨fuel, rfl⟩ : ∃ m, fuel = m + 1 := Nat.exists_eq_add_one.2 hfuel
      obtain ⟨now, hnow⟩ := anotherMember_close (white_of_gap hlast) first
        (Cursor.at_mk (encode (last ++ ['\x7d']) ++ rest) passed)
      refine ⟨now + 1, ?_⟩
      simp [readFieldsByName, partsText, hnow, bind, Except.bind, next_cons, hfinish, fitted]
  | @cons s s' s'' key text ts f hfind hset htakes h ih =>
      obtain ⟨fuel, rfl⟩ : ∃ m, fuel = m + 1 := ⟨fuel - 1, by omega⟩
      let behind := encode (partsText before last '\x7d' false ts) ++ rest
      obtain ⟨colonEnd, hmember⟩ := readFieldsByName_member fuel hbefore hfind hset first text behind
        passed
      obtain ⟨middle, hmiddle⟩ := htakes behind colonEnd
        (stopsNumber_partsText (white_of_gap hlast) (.inr rfl) _ rest)
      obtain ⟨now, hnow⟩ := ih hfinish (by simpa using hfuel) false middle
      refine ⟨now, ?_⟩
      have hencode : encode (partsText before last '\x7d' first (memberText key text :: ts)) ++ rest =
          encode (partMark before first) ++ (encode (memberText key text) ++ behind) := by
        simp [partsText, encode_append, behind]
      rw [hencode, hmember, hmiddle]
      exact hnow

theorem length_lt_fuelFor {ts : List (List Char)} {key : String} {t text : List Char}
    (htext : text = '\x7b' :: partsText before last '\x7d' true ts)
    (h : memberText key t ∈ ts) : t.length < fuelFor (encode text) := by
  have hmember := length_le_of_mem before last '\x7d' true h
  have hlength := Text.Utf8.length_le_encode text
  rw [htext, List.length_cons] at hlength
  rw [memberText, List.length_append, List.length_cons] at hmember
  rw [fuelFor, htext]
  omega

/-- The text of an object that gives all fields is taken for the record that they make. -/
theorem Record.takes_run (hbefore : ∀ c ∈ before, isGap c = true)
    (hlast : ∀ c ∈ last, isGap c = true) {ts : List (List Char)} {s : σ} {x : α}
    (h : FieldRun r bound r.start ts s) (hfinish : r.finish s = .ok x)
    (hfuel : ts.length < bound) :
    Takes (r.read bound) ('\x7b' :: partsText before last '\x7d' true ts) x := by
  intro rest passed _
  exact readFieldsByName_run hbefore hlast h hfinish hfuel true rest (passed + 1)

theorem Record.ofBytes_run (hbefore : ∀ c ∈ before, isGap c = true)
    (hlast : ∀ c ∈ last, isGap c = true) {ts : List (List Char)} {s : σ} {x : α}
    {text : List Char} (htext : text = '\x7b' :: partsText before last '\x7d' true ts)
    (h : FieldRun r (fuelFor (encode text)) r.start ts s) (hfinish : r.finish s = .ok x) :
    r.ofBytes (encode text) = .ok x := by
  have hlength := Text.Utf8.length_le_encode text
  have hcount := length_le_partsText before last '\x7d' ts
  have hfuel : ts.length < fuelFor (encode text) := by
    rw [htext, List.length_cons] at hlength
    rw [fuelFor, htext]
    omega
  have htakes := Record.takes_run hbefore hlast h hfinish hfuel
  rw [← htext] at htakes
  exact htakes.readWhole

end Records

end Json

end LiveTree
