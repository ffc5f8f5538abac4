import LiveTree.Proofs.Json.Settling

namespace LiveTree.Json

open Text.Utf8 (encode encode_cons encode_append)

section Digits

theorem HexDigit.exists_byte (d : HexDigit) : ∃ b, String.utf8EncodeChar d.char = [b] ∧
    hexValue? b = some d.value.val := by
  have hcapital : ∀ n : Fin 16,
      hexValue? (UInt8.ofNat (Text.Percent.upperDigit n).toNat) = some n.val ∧
      String.utf8EncodeChar (Text.Percent.upperDigit n) =
        [UInt8.ofNat (Text.Percent.upperDigit n).toNat] := by decide
  obtain ⟨n, capital⟩ := d
  rw [HexDigit.char]
  cases capital with
  | true => exact ⟨_, (hcapital n).2, (hcapital n).1⟩
  | false => exact ⟨hexByte n, utf8EncodeChar_hexDigit n n.isLt, hexValue?_hexByte n n.isLt⟩

variable (rest : List UInt8) (passed : Nat) (out : List UInt8) (a b c d : HexDigit)

theorem readTextBytes_unit (lead : Option Nat) :
    readTextBytes (encode [a.char, b.char, c.char, d.char] ++ rest) passed
        (.hex lead HexRun.start) out =
      match endHex lead (unitOf a b c d) with
      | .ok (mode, more) => readTextBytes rest (passed + 4) mode (more.reverse ++ out)
      | .error cause => .error ⟨cause, passed + 4⟩ := by
  obtain ⟨a', ha, hx⟩ := a.exists_byte
  obtain ⟨b', hb, hy⟩ := b.exists_byte
  obtain ⟨c', hc, hz⟩ := c.exists_byte
  obtain ⟨d', hd, hw⟩ := d.exists_byte
  have hencode : encode [a.char, b.char, c.char, d.char] = [a', b', c', d'] := by
    simp only [encode_cons, ha, hb, hc, hd]
    rfl
  cases hend : endHex lead (unitOf a b c d) with
  | error cause | ok r =>
      rw [unitOf] at hend
      simp [hencode, readTextBytes, TextMode.advance, HexRun.start, HexRun.push, hx, hy, hz, hw,
        hend]

end Digits

theorem short_cases {letter c : Char} (h : (letter, c) ∈ shortEscapes) : ∃ b e,
    String.utf8EncodeChar letter = [b] ∧ b ≠ 0x75 ∧ shortEscape? b = some e ∧
      String.utf8EncodeChar c = [e] := by
  simp only [shortEscapes, List.mem_cons, List.not_mem_nil, or_false, Prod.mk.injEq] at h
  rcases h with h | h | h | h | h | h | h | h
  all_goals
    obtain ⟨rfl, rfl⟩ := h
    exact ⟨_, _, rfl, by decide, rfl, rfl⟩

def modeBehind (lead : Option Nat) : TextMode :=
  lead.elim .plain .pairMark

section Pairs

variable (bytes : List UInt8) (passed : Nat) (out : List UInt8) {b : UInt8} {lead : Nat}

theorem readTextBytes_pairMark (h : b ≠ 0x5C) : ∃ f,
    readTextBytes (b :: bytes) passed (.pairMark lead) out = .error f :=
  ⟨⟨.escapeCutShort, passed + 1⟩, by simp [readTextBytes, TextMode.advance, h]⟩

theorem readTextBytes_pairLetter (h : b ≠ 0x75) : ∃ f,
    readTextBytes (0x5C :: b :: bytes) passed (.pairMark lead) out = .error f :=
  ⟨⟨.escapeCutShort, passed + 2⟩, by simp [readTextBytes, TextMode.advance, h]⟩

theorem readTextBytes_u (lead : Option Nat) :
    readTextBytes (0x5C :: 0x75 :: bytes) passed (modeBehind lead) out =
      readTextBytes bytes (passed + 2) (.hex lead HexRun.start) out := by
  cases lead <;> simp [readTextBytes, TextMode.advance, modeBehind]

end Pairs

section Glyphs

variable {rest : List UInt8}

theorem reaches_behind {res : Except Flaw (List UInt8 × Cursor)} {o : Option (List Char)}
    {out front : List UInt8} {c : Char} (hfront : front = out ++ String.utf8EncodeChar c)
    (h : Reaches rest res (o.map fun cs => front ++ encode cs)) :
    Reaches rest res ((o.map (c :: ·)).map fun cs => out ++ encode cs) := by
  have hmap : (o.map (c :: ·)).map (fun cs => out ++ encode cs) =
      o.map fun cs => front ++ encode cs := by
    rw [Option.map_map, hfront]
    congr 1
    funext cs
    rw [Function.comp_apply, encode_cons, List.append_assoc]
  rwa [hmap]

/-- Some bytes are read as the grammar says of some glyphs, wherever reading stands. -/
def ReachesBehind (rest bytes : List UInt8) (gs : List Glyph) : Prop :=
  ∀ lead passed out, Reaches rest (readTextBytes bytes passed (modeBehind lead) out)
    ((writtenBehind lead gs).map fun cs => out.reverse ++ encode cs)

section Glyph

variable {behind : List UInt8} {gs : List Glyph}

theorem ReachesBehind.nil : ReachesBehind rest (0x22 :: rest) [] := by
  intro lead passed out
  cases lead with
  | none =>
      have hread : readTextBytes (0x22 :: rest) passed .plain out =
          .ok (out.reverse ++ [], ⟨rest, passed + 1⟩) := by
        simp [readTextBytes]
      exact hread ▸ .found _ rfl
  | some lead => exact .flaw _

theorem ReachesBehind.plain (hgs : ReachesBehind rest behind gs) {c : Char}
    (h : c ≠ '"' ∧ c ≠ '\\' ∧ 0x20 ≤ c.toNat) :
    ReachesBehind rest (encode (Glyph.plain c h).text ++ behind) (.plain c h :: gs) := by
  intro lead passed out
  have hencode : encode (Glyph.plain c h).text = String.utf8EncodeChar c := by
    simp [Glyph.text, encode]
  rw [hencode]
  cases lead with
  | none =>
      obtain ⟨now, hnow⟩ := readTextBytes_plain behind passed out (plain_bytes h)
      have hreach : Reaches rest
          (readTextBytes behind now .plain ((String.utf8EncodeChar c).reverse ++ out)) _ :=
        hgs none now _
      rw [← hnow] at hreach
      exact reaches_behind (by simp) hreach
  | some lead =>
      have hbytes := plain_bytes h
      cases hc : String.utf8EncodeChar c with
      | nil => exact absurd hc String.utf8EncodeChar_ne_nil
      | cons b bytes =>
          have hb : b ≠ 0x5C := (hbytes b (hc ▸ List.mem_cons_self ..)).2.1
          obtain ⟨f, hf⟩ := readTextBytes_pairMark (bytes ++ behind) passed out hb
          exact hf ▸ .flaw f

theorem ReachesBehind.short (hgs : ReachesBehind rest behind gs) {letter c : Char}
    (h : (letter, c) ∈ shortEscapes) :
    ReachesBehind rest (encode (Glyph.short letter c h).text ++ behind) (.short letter c h :: gs) := by
  intro lead passed out
  obtain ⟨b, e, hletter, hu, hshort, hc⟩ := short_cases h
  have hencode : encode (Glyph.short letter c h).text = [0x5C, b] := by
    rw [Glyph.text, encode_cons, encode_cons, hletter]
    rfl
  rw [hencode]
  cases lead with
  | none =>
      have hreach : Reaches rest (readTextBytes behind (passed + 2) .plain (e :: out)) _ :=
        hgs none (passed + 2) _
      rw [← readTextBytes_short behind passed out hu hshort] at hreach
      exact reaches_behind (by simp [hc]) hreach
  | some lead =>
      obtain ⟨f, hf⟩ := readTextBytes_pairLetter behind passed out hu
      exact hf ▸ .flaw f

theorem ReachesBehind.unit (hgs : ReachesBehind rest behind gs) (a b c d : HexDigit) :
    ReachesBehind rest (encode (Glyph.unit a b c d).text ++ behind) (.unit a b c d :: gs) := by
  intro lead passed out
  have hencode : encode (Glyph.unit a b c d).text =
      0x5C :: 0x75 :: encode [a.char, b.char, c.char, d.char] := rfl
  have hread := (readTextBytes_u (encode [a.char, b.char, c.char, d.char] ++ behind)
    passed out lead).trans (readTextBytes_unit behind (passed + 2) out a b c d lead)
  rw [hencode, List.cons_append, List.cons_append, hread]
  cases lead with
  | none =>
      by_cases htrail : isTrail (unitOf a b c d) = true
      · simp only [endHex, writtenBehind, if_pos htrail]
        exact .flaw _
      by_cases hlead : isLead (unitOf a b c d) = true
      · simp only [endHex, writtenBehind, if_neg htrail, if_pos hlead]
        exact hgs (some (unitOf a b c d)) _ out
      · simp only [endHex, writtenBehind, if_neg htrail, if_neg hlead]
        exact reaches_behind (by simp [pointBytes]) (hgs none _ _)
  | some lead =>
      by_cases htrail : isTrail (unitOf a b c d) = true
      · simp only [endHex, writtenBehind, if_pos htrail]
        exact reaches_behind (by simp [pointBytes]) (hgs none _ _)
      · simp only [endHex, writtenBehind, if_neg htrail]
        exact .flaw _

end Glyph

theorem reaches_glyphs (gs : List Glyph) :
    ReachesBehind rest (encode (gs.flatMap Glyph.text) ++ 0x22 :: rest) gs := by
  induction gs with
  | nil => exact .nil
  | cons g gs ih =>
      rw [List.flatMap_cons, encode_append, List.append_assoc]
      cases g with
      | plain c h => exact ih.plain h
      | short letter c h => exact ih.short h
      | unit a b c d => exact ih.unit a b c d

theorem reaches_readText (gs : List Glyph) (passed : Nat) :
    Reaches rest (readText ⟨encode (gs.flatMap Glyph.text ++ ['"']) ++ rest, passed⟩)
      (written gs) := by
  have hbytes : encode (gs.flatMap Glyph.text ++ ['"']) ++ rest =
      encode (gs.flatMap Glyph.text) ++ 0x22 :: rest := by
    rw [encode_append, List.append_assoc]
    rfl
  have hreach : Reaches rest (readTextBytes (encode (gs.flatMap Glyph.text) ++ 0x22 :: rest)
      passed .plain []) _ := reaches_glyphs gs none passed []
  rw [hbytes, written, readText]
  generalize readTextBytes _ passed .plain [] = res at hreach ⊢
  cases hwritten : writtenBehind none gs with
  | none =>
      rw [hwritten, Option.map_none] at hreach
      cases hreach with
      | flaw f => exact .flaw f
  | some cs =>
      rw [hwritten, Option.map_some, List.reverse_nil, List.nil_append] at hreach
      cases hreach with
      | found _ hc =>
          simp only [bind, Except.bind, Text.Utf8.decode_encode]
          exact .found _ hc

end Glyphs

end LiveTree.Json
