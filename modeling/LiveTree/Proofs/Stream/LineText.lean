import LiveTree.Proofs.Stream.Lines
import LiveTree.Proofs.Text.Ascii

namespace LiveTree.Stream

open Text.Utf8 (encode encode_append)

def carriageReturn : UInt8 := 0x0D

def lineEnd (returns : Nat) : List UInt8 :=
  List.replicate returns carriageReturn ++ [lineFeed]

def IsLine (line : List Char) : Prop :=
  ∀ c ∈ line, Decoder.isLineEnd c = false

variable {line : List Char}

theorem IsLine.not_mem (h : IsLine line) : '\n' ∉ line := by
  intro hm
  exact absurd (h '\n' hm) (by decide)

theorem IsLine.append {before : List Char} (hb : IsLine before) (h : IsLine line) :
    IsLine (before ++ line) :=
  List.forall_mem_append.2 ⟨hb, h⟩

theorem lineFeed_not_mem_encode {cs : List Char} (h : '\n' ∉ cs) : lineFeed ∉ encode cs := by
  intro hm
  obtain ⟨c, hc, hb⟩ := List.mem_flatMap.1 hm
  have hn : c = '\n' := Char.toNat_inj.1 (Text.Utf8.toNat_of_mem hb (by decide))
  exact h (hn ▸ hc)

theorem encode_line (cs : List Char) :
    encode (line ++ '\n' :: cs) = encode line ++ lineFeed :: encode cs :=
  encode_append line ('\n' :: cs)

theorem lineText_append_ends (bytes : List UInt8) {ends : List UInt8} (hne : ends ≠ [])
    (h : ∀ b ∈ ends, b = carriageReturn ∨ b = lineFeed) : Decoder.lineText (bytes ++ ends) =
      (Text.Utf8.collect (Text.Utf8.piecesBefore bytes) 0 []).map
        (Text.dropEndWhile Decoder.isLineEnd) := by
  have hascii : ∀ b ∈ ends, b < 0x80 := by
    intro b hb
    obtain rfl | rfl := h b hb <;> decide
  have hends : ∀ c ∈ ends.map fun b => Char.ofNat b.toNat, Decoder.isLineEnd c = true := by
    intro c hc
    obtain ⟨b, hb, rfl⟩ := List.mem_map.1 hc
    obtain rfl | rfl := h b hb <;> decide
  rw [Decoder.lineText, Text.Utf8.decode_append_ascii bytes hne hascii]
  cases Text.Utf8.collect (Text.Utf8.piecesBefore bytes) 0 [] with
  | error flaw => rfl
  | ok cs => exact congrArg Except.ok (Text.dropEndWhile_append_of_all hends)

theorem lineText_lineEnd (bytes : List UInt8) (n : Nat) :
    Decoder.lineText (bytes ++ lineEnd n) = Decoder.lineText (bytes ++ [lineFeed]) := by
  have hends : ∀ b ∈ lineEnd n, b = carriageReturn ∨ b = lineFeed := by
    intro b hb
    obtain hb | hb := List.mem_append.1 hb
    · exact .inl (List.eq_of_mem_replicate hb)
    · exact .inr (List.mem_singleton.1 hb)
  rw [lineText_append_ends bytes (by simp [lineEnd]) hends,
    lineText_append_ends bytes (List.cons_ne_nil _ _) (by simp)]

theorem lineText_encode (h : ∀ c, line.getLast? = some c → Decoder.isLineEnd c = false) :
    Decoder.lineText (encode line ++ [lineFeed]) = .ok line := by
  have hfeed : ∀ c ∈ ['\n'], Decoder.isLineEnd c = true := by simp [Decoder.isLineEnd]
  have hlast : ∀ c, line.getLast? = some c → ¬ Decoder.isLineEnd c = true := by
    intro c hc
    rw [h c hc]
    simp
  have hencode : encode line ++ [lineFeed] = encode (line ++ ['\n']) := (encode_line []).symm
  rw [Decoder.lineText, hencode, Text.Utf8.decode_encode, Except.map,
    Text.dropEndWhile_append_of_all hfeed, Text.dropEndWhile_eq_self hlast]

end LiveTree.Stream
