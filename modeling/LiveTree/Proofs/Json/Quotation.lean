import LiveTree.Proofs.Json.Taking

namespace LiveTree.Json

open Text.Utf8 (encode encode_cons encode_append)

section Escapes

variable (rest : List UInt8) (passed : Nat) (out : List UInt8)

theorem readTextBytes_plain {bytes : List UInt8}
    (h : ∀ b ∈ bytes, b ≠ 0x22 ∧ b ≠ 0x5C ∧ ¬ b < 0x20) : ∃ now,
    readTextBytes (bytes ++ rest) passed .plain out =
      readTextBytes rest now .plain (bytes.reverse ++ out) := by
  induction bytes generalizing passed out with
  | nil => exact ⟨passed, rfl⟩
  | cons b bytes ih =>
      obtain ⟨⟨hquote, hslash, hlow⟩, hbytes⟩ := List.forall_mem_cons.1 h
      obtain ⟨now, hnow⟩ := ih (passed + 1) (b :: out) hbytes
      refine ⟨now, ?_⟩
      simp [readTextBytes, TextMode.advance, hquote, hslash, hlow, hnow]

theorem readTextBytes_short {letter b : UInt8} (hu : letter ≠ 0x75)
    (h : shortEscape? letter = some b) :
    readTextBytes (0x5C :: letter :: rest) passed .plain out =
      readTextBytes rest (passed + 2) .plain (b :: out) := by
  simp [readTextBytes, TextMode.advance, hu, h]

def hexByte (d : Nat) : UInt8 :=
  UInt8.ofNat (Nat.digitChar d).toNat

theorem hexValue?_hexByte : ∀ d < 16, hexValue? (hexByte d) = some d := by
  decide

theorem utf8EncodeChar_hexDigit :
    ∀ d < 16, String.utf8EncodeChar (Nat.digitChar d) = [hexByte d] := by
  decide

theorem readTextBytes_control {n : Nat} (h : n < 0x20) :
    readTextBytes (0x5C :: 0x75 :: 0x30 :: 0x30 :: hexByte (n / 16) :: hexByte (n % 16) :: rest)
        passed .plain out =
      readTextBytes rest (passed + 6) .plain ((pointBytes n).reverse ++ out) := by
  have hzero : hexValue? 0x30 = some 0 := by decide
  have htens := hexValue?_hexByte (n / 16) (by omega)
  have hones := hexValue?_hexByte (n % 16) (by omega)
  have hsum : n / 16 * 16 + n % 16 = n := by omega
  have htrail : isTrail n = false := by
    simp [isTrail]
    omega
  have hlead : isLead n = false := by
    simp [isLead]
    omega
  simp [readTextBytes, TextMode.advance, HexRun.start, HexRun.push, hzero, htens, hones, hsum,
    endHex, htrail, hlead]

theorem plain_bytes {c : Char} (h : c ≠ '"' ∧ c ≠ '\\' ∧ 0x20 ≤ c.toNat) :
    ∀ b ∈ String.utf8EncodeChar c, b ≠ 0x22 ∧ b ≠ 0x5C ∧ ¬ b < 0x20 := by
  obtain ⟨hquote, hslash, hlow⟩ := h
  intro b hb
  have hself (n : Nat) (hn : b.toNat = n) (hlt : n < 0x80) : c.toNat = n :=
    hn ▸ Text.Utf8.toNat_of_mem hb (hn ▸ hlt)
  refine ⟨?_, ?_, ?_⟩
  · rintro rfl
    exact hquote (Char.toNat_inj.1 (hself 0x22 rfl (by decide)))
  · rintro rfl
    exact hslash (Char.toNat_inj.1 (hself 0x5C rfl (by decide)))
  · intro hlt
    have hn : b.toNat < 0x20 := UInt8.lt_iff_toNat_lt.1 hlt
    have := hself b.toNat rfl (by omega)
    omega

theorem escape_cases (c : Char) :
    (∃ letter b, letter ≠ 0x75 ∧ shortEscape? letter = some b ∧
        encode (escape c) = [0x5C, letter] ∧ String.utf8EncodeChar c = [b]) ∨
      (∃ n < 0x20, encode (escape c) = [0x5C, 0x75, 0x30, 0x30, hexByte (n / 16), hexByte (n % 16)] ∧
        String.utf8EncodeChar c = pointBytes n) ∨
      (encode (escape c) = String.utf8EncodeChar c ∧
        ∀ b ∈ String.utf8EncodeChar c, b ≠ 0x22 ∧ b ≠ 0x5C ∧ ¬ b < 0x20) := by
  by_cases hquote : c = '"'
  · subst hquote
    exact .inl ⟨0x22, 0x22, by decide⟩
  by_cases hslash : c = '\\'
  · subst hslash
    exact .inl ⟨0x5C, 0x5C, by decide⟩
  by_cases hfeed : c = '\n'
  · subst hfeed
    exact .inl ⟨0x6E, 0x0A, by decide⟩
  by_cases hreturn : c = '\r'
  · subst hreturn
    exact .inl ⟨0x72, 0x0D, by decide⟩
  by_cases htab : c = '\t'
  · subst htab
    exact .inl ⟨0x74, 0x09, by decide⟩
  by_cases hback : c.toNat = 8
  · obtain rfl : c = '\x08' := Char.toNat_inj.1 hback
    exact .inl ⟨0x62, 0x08, by decide⟩
  by_cases hform : c.toNat = 12
  · obtain rfl : c = '\x0c' := Char.toNat_inj.1 hform
    exact .inl ⟨0x66, 0x0C, by decide⟩
  by_cases hcontrol : c.toNat < 0x20
  · refine .inr (.inl ⟨c.toNat, hcontrol, ?_, ?_⟩)
    · rw [escape, if_neg hquote, if_neg hslash, if_neg hfeed, if_neg hreturn, if_neg htab,
        if_neg hback, if_neg hform, if_pos hcontrol]
      have htens := utf8EncodeChar_hexDigit (c.toNat / 16) (by omega)
      have hones := utf8EncodeChar_hexDigit (c.toNat % 16) (by omega)
      simp only [encode_cons, htens, hones]
      rfl
    · rw [pointBytes, Char.ofNat_toNat]
  · refine .inr (.inr ⟨?_, ?_⟩)
    · rw [escape, if_neg hquote, if_neg hslash, if_neg hfeed, if_neg hreturn, if_neg htab,
        if_neg hback, if_neg hform, if_neg hcontrol]
      simp [encode]
    · exact plain_bytes ⟨hquote, hslash, Nat.le_of_not_lt hcontrol⟩

theorem readTextBytes_escape (c : Char) : ∃ now,
    readTextBytes (encode (escape c) ++ rest) passed .plain out =
      readTextBytes rest now .plain ((String.utf8EncodeChar c).reverse ++ out) := by
  rcases escape_cases c with
    ⟨letter, b, hu, hshort, hescape, hbytes⟩ | ⟨n, hn, hescape, hbytes⟩ | ⟨hescape, hbytes⟩
  · rw [hescape, hbytes]
    exact ⟨passed + 2, readTextBytes_short rest passed out hu hshort⟩
  · rw [hescape, hbytes]
    exact ⟨passed + 6, readTextBytes_control rest passed out hn⟩
  · rw [hescape]
    exact readTextBytes_plain rest passed out hbytes

theorem readTextBytes_quoted (cs : List Char) : ∃ now,
    readTextBytes (encode (cs.flatMap escape) ++ rest) passed .plain out =
      readTextBytes rest now .plain ((encode cs).reverse ++ out) := by
  induction cs generalizing passed out with
  | nil => exact ⟨passed, rfl⟩
  | cons c cs ih =>
      obtain ⟨middle, hmiddle⟩ := readTextBytes_escape (encode (cs.flatMap escape) ++ rest) passed out c
      obtain ⟨now, hnow⟩ := ih middle ((String.utf8EncodeChar c).reverse ++ out)
      refine ⟨now, ?_⟩
      rw [List.flatMap_cons, encode_append, List.append_assoc, hmiddle, hnow, encode_cons]
      simp

end Escapes

theorem readText_quoted (s : String) (rest : List UInt8) (passed : Nat) : ∃ now,
    readText ⟨encode (s.toList.flatMap escape ++ ['"']) ++ rest, passed⟩ =
      .ok (s, ⟨rest, now⟩) := by
  obtain ⟨now, hnow⟩ := readTextBytes_quoted (0x22 :: rest) passed [] s.toList
  refine ⟨now + 1, ?_⟩
  have hbytes : encode (s.toList.flatMap escape ++ ['"']) ++ rest =
      encode (s.toList.flatMap escape) ++ 0x22 :: rest := by
    rw [encode_append, List.append_assoc]
    rfl
  have hread : readTextBytes (0x22 :: rest) now .plain ((encode s.toList).reverse ++ []) =
      .ok (encode s.toList, ⟨rest, now + 1⟩) := by
    simp [readTextBytes]
  rw [hbytes, readText]
  simp only [hnow, hread, bind, Except.bind, Text.Utf8.decode_encode, String.ofList_toList]

theorem readScalar_quoted (s : String) (rest : List UInt8) (passed : Nat) : ∃ now,
    readScalar 0x22 ⟨0x22 :: (encode (s.toList.flatMap escape ++ ['"']) ++ rest), passed⟩ =
      .ok (.text s, ⟨rest, now⟩) := by
  obtain ⟨now, hnow⟩ := readText_quoted s rest (passed + 1)
  refine ⟨now, ?_⟩
  have hnumber : isNumberStart 0x22 = false := rfl
  rw [readScalar, if_neg (by decide), if_neg (by decide), if_neg (by decide), hnumber,
    if_neg Bool.false_ne_true, if_pos rfl, next_cons, hnow]
  rfl

end LiveTree.Json
