import LiveTree.Text.Utf8

namespace LiveTree.Text.Utf8

theorem encode_cons (c : Char) (cs : List Char) :
    encode (c :: cs) = String.utf8EncodeChar c ++ encode cs :=
  List.flatMap_cons

theorem length_le_encode (cs : List Char) : cs.length ≤ (encode cs).length := by
  induction cs with
  | nil => simp
  | cons c cs ih =>
      have hc : 0 < (String.utf8EncodeChar c).length :=
        List.length_pos_iff.2 String.utf8EncodeChar_ne_nil
      rw [encode_cons, List.length_append, List.length_cons]
      omega

section Bytes

variable {n : Nat}

theorem ofNat_lt_iff (h : n < 256) (b : UInt8) : UInt8.ofNat n < b ↔ n < b.toNat := by
  rw [UInt8.lt_iff_toNat_lt, UInt8.toNat_ofNat_of_lt' h]

theorem ofNat_eq_iff (h : n < 256) (b : UInt8) : UInt8.ofNat n = b ↔ n = b.toNat := by
  rw [← UInt8.toNat_inj, UInt8.toNat_ofNat_of_lt' h]

end Bytes

section Character

variable {n : Nat}

theorem opening_one (h : n < 0x80) : opening (UInt8.ofNat n) = .whole (Char.ofNat n) := by
  have hn : n < 256 := by omega
  simp [opening, ofNat_lt_iff hn, UInt8.toNat_ofNat_of_lt' hn, h]

theorem opening_two (h : 0xC2 ≤ n) (h' : n < 0xE0) :
    opening (UInt8.ofNat n) = .unfinished ⟨1, 0x80, 0xBF, n % 0x20, 1⟩ := by
  have hn : n < 256 := by omega
  have h₁ : ¬ n < 0x80 := by omega
  have h₂ : ¬ n < 0xC2 := by omega
  simp [opening, ofNat_lt_iff hn, UInt8.toNat_ofNat_of_lt' hn, h₁, h₂, h']

theorem between {low high : UInt8} (hn : n < 256) (h : low.toNat ≤ n) (h' : n ≤ high.toNat) :
    low ≤ UInt8.ofNat n ∧ UInt8.ofNat n ≤ high := by
  rw [UInt8.le_iff_toNat_le, UInt8.le_iff_toNat_le, UInt8.toNat_ofNat_of_lt' hn]
  exact ⟨h, h'⟩

/-- The second byte is bounded so that no character is written longer than need be and none is a
surrogate. -/
theorem opening_three (h : 0xE0 ≤ n) (h' : n < 0xF0) : ∃ low high : UInt8,
    opening (UInt8.ofNat n) = .unfinished ⟨2, low, high, n % 0x10, 1⟩ ∧
      low.toNat = (if n = 0xE0 then 0xA0 else 0x80) ∧
      high.toNat = (if n = 0xED then 0x9F else 0xBF) := by
  have hn : n < 256 := by omega
  have h₁ : ¬ n < 0x80 := by omega
  have h₂ : ¬ n < 0xC2 := by omega
  have h₃ : ¬ n < 0xE0 := by omega
  by_cases hlow : n = 0xE0
  · exact ⟨0xA0, 0xBF, by simp [hlow, opening]⟩
  by_cases hhigh : n = 0xED
  · exact ⟨0x80, 0x9F, by simp [hhigh, opening]⟩
  refine ⟨0x80, 0xBF, ?_, by simp [hlow], by simp [hhigh]⟩
  simp [opening, ofNat_lt_iff hn, ofNat_eq_iff hn, UInt8.toNat_ofNat_of_lt' hn, h₁, h₂, h₃, hlow,
    hhigh, h']

theorem opening_four (h : 0xF0 ≤ n) (h' : n < 0xF5) : ∃ low high : UInt8,
    opening (UInt8.ofNat n) = .unfinished ⟨3, low, high, n % 8, 1⟩ ∧
      low.toNat = (if n = 0xF0 then 0x90 else 0x80) ∧
      high.toNat = (if n = 0xF4 then 0x8F else 0xBF) := by
  have hn : n < 256 := by omega
  have h₁ : ¬ n < 0x80 := by omega
  have h₂ : ¬ n < 0xC2 := by omega
  have h₃ : ¬ n < 0xE0 := by omega
  have h₄ : ¬ n < 0xF0 := by omega
  have he : n ≠ 0xE0 ∧ n ≠ 0xED := by omega
  by_cases hlow : n = 0xF0
  · exact ⟨0x90, 0xBF, by simp [hlow, opening]⟩
  by_cases hhigh : n = 0xF4
  · exact ⟨0x80, 0x8F, by simp [hhigh, opening]⟩
  have h₅ : n < 0xF4 := by omega
  refine ⟨0x80, 0xBF, ?_, by simp [hlow], by simp [hhigh]⟩
  simp [opening, ofNat_lt_iff hn, ofNat_eq_iff hn, UInt8.toNat_ofNat_of_lt' hn, h₁, h₂, h₃, h₄, h₅,
    he, hlow]

theorem advance_accepted {p : Partial} (out : List Piece) (hn : n < 256)
    (h : p.low ≤ UInt8.ofNat n ∧ UInt8.ofNat n ≤ p.high) :
    advance (some p, out) (UInt8.ofNat n) =
      settle (if p.owed ≤ 1 then .whole (Char.ofNat (p.point * 0x40 + n % 0x40))
        else .unfinished ⟨p.owed - 1, 0x80, 0xBF, p.point * 0x40 + n % 0x40, p.taken + 1⟩) out := by
  simp [advance, Partial.accepts, Partial.extend, h, UInt8.toNat_ofNat_of_lt' hn]

theorem accepted_tail (n : Nat) :
    (0x80 : UInt8) ≤ UInt8.ofNat (n % 64 + 128) ∧ UInt8.ofNat (n % 64 + 128) ≤ (0xBF : UInt8) :=
  between (by omega) (Nat.le_add_left _ _) (by change n % 64 + 128 ≤ 191; omega)

theorem advance_tail (out : List Piece) (owed point taken n : Nat) :
    advance (some ⟨owed, 0x80, 0xBF, point, taken⟩, out) (UInt8.ofNat (n % 64 + 128)) =
      settle (if owed ≤ 1 then .whole (Char.ofNat (point * 0x40 + n % 64))
        else .unfinished ⟨owed - 1, 0x80, 0xBF, point * 0x40 + n % 64, taken + 1⟩) out := by
  have hm : (n % 64 + 128) % 0x40 = n % 64 := by omega
  rw [advance_accepted out (by omega) (accepted_tail n), hm]

end Character

theorem foldl_advance_char (c : Char) (out : List Piece) :
    (String.utf8EncodeChar c).foldl advance (none, out) = (none, .char c :: out) := by
  have hc : Char.ofNat c.val.toNat = c := Char.ofNat_toNat c
  have hv : c.val.toNat < 0xD800 ∨ 0xDFFF < c.val.toNat ∧ c.val.toNat < 0x110000 := c.valid
  rw [String.utf8EncodeChar]
  generalize c.val.toNat = v at hc hv
  by_cases h₁ : v ≤ 127
  · simp [h₁, advance, opening_one (show v < 0x80 by omega), settle, hc]
  by_cases h₂ : v ≤ 2047
  · have hp : (v / 64 % 32 + 192) % 0x20 * 0x40 + v % 64 = v := by omega
    have ho := opening_two (n := v / 64 % 32 + 192) (by omega) (by omega)
    simp only [if_neg h₁, if_pos h₂, List.foldl_cons, List.foldl_nil]
    rw [advance, ho, settle, advance_tail]
    simp only [hp, hc, Nat.le_refl, if_true, settle]
  by_cases h₃ : v ≤ 65535
  · have hp : ((v / 4096 % 16 + 224) % 0x10 * 0x40 + (v / 64 % 64 + 128) % 0x40) * 0x40 + v % 64 = v := by
      omega
    obtain ⟨low, high, ho, hlow, hhigh⟩ :=
      opening_three (n := v / 4096 % 16 + 224) (by omega) (by omega)
    have hsecond : low ≤ UInt8.ofNat (v / 64 % 64 + 128) ∧ UInt8.ofNat (v / 64 % 64 + 128) ≤ high :=
      between (by omega) (by rw [hlow]; split <;> omega) (by rw [hhigh]; split <;> omega)
    simp only [if_neg h₁, if_neg h₂, if_pos h₃, List.foldl_cons, List.foldl_nil]
    rw [advance, ho, settle, advance_accepted out (by omega) hsecond]
    simp only [Nat.reduceLeDiff, if_false, settle, advance_tail, hp, hc, Nat.reduceSub, Nat.le_refl,
      if_true]
  have hp : (((v / 262144 % 8 + 240) % 8 * 0x40 + (v / 4096 % 64 + 128) % 0x40) * 0x40 +
      v / 64 % 64) * 0x40 + v % 64 = v := by
    omega
  obtain ⟨low, high, ho, hlow, hhigh⟩ :=
    opening_four (n := v / 262144 % 8 + 240) (by omega) (by omega)
  have hsecond : low ≤ UInt8.ofNat (v / 4096 % 64 + 128) ∧ UInt8.ofNat (v / 4096 % 64 + 128) ≤ high :=
    between (by omega) (by rw [hlow]; split <;> omega) (by rw [hhigh]; split <;> omega)
  simp only [if_neg h₁, if_neg h₂, if_neg h₃, List.foldl_cons, List.foldl_nil]
  rw [advance, ho, settle, advance_accepted out (by omega) hsecond]
  simp only [Nat.reduceLeDiff, if_false, settle, advance_tail, hp, hc, Nat.reduceSub, Nat.le_refl,
    if_true]

theorem toNat_of_mem {b : UInt8} {c : Char} (h : b ∈ String.utf8EncodeChar c)
    (hb : b.toNat < 0x80) : c.toNat = b.toNat := by
  have hhigh (n : Nat) (hn : 128 ≤ n) (hn' : n < 256) : b ≠ UInt8.ofNat n := by
    rintro rfl
    rw [UInt8.toNat_ofNat_of_lt' hn'] at hb
    omega
  have hv : c.val.toNat < 0x110000 := by
    have hc : c.val.toNat < 0xD800 ∨ 0xDFFF < c.val.toNat ∧ c.val.toNat < 0x110000 := c.valid
    omega
  rw [String.utf8EncodeChar] at h
  change c.val.toNat = b.toNat
  generalize c.val.toNat = v at h hv
  by_cases h₁ : v ≤ 127
  · rw [if_pos h₁, List.mem_singleton] at h
    rw [h, UInt8.toNat_ofNat_of_lt' (show v < 256 by omega)]
  rw [if_neg h₁] at h
  split at h
  · simp only [List.mem_cons, List.not_mem_nil, or_false] at h
    rcases h with h | h <;> exact absurd h (hhigh _ (by omega) (by omega))
  split at h
  · simp only [List.mem_cons, List.not_mem_nil, or_false] at h
    rcases h with h | h | h <;> exact absurd h (hhigh _ (by omega) (by omega))
  · simp only [List.mem_cons, List.not_mem_nil, or_false] at h
    rcases h with h | h | h | h <;> exact absurd h (hhigh _ (by omega) (by omega))

theorem foldl_advance_encode (cs : List Char) (out : List Piece) :
    (encode cs).foldl advance (none, out) = (none, (cs.map .char).reverse ++ out) := by
  induction cs generalizing out with
  | nil => rfl
  | cons c cs ih =>
      rw [encode_cons, List.foldl_append, foldl_advance_char, ih]
      simp

theorem pieces_encode (cs : List Char) : pieces (encode cs) = cs.map .char := by
  rw [pieces, foldl_advance_encode, close]
  simp

theorem collect_map_char (cs : List Char) (index : Nat) (out : List Char) :
    collect (cs.map .char) index out = .ok (out.reverse ++ cs) := by
  induction cs generalizing index out with
  | nil => simp [collect]
  | cons c cs ih =>
      rw [List.map_cons, collect, ih]
      simp

theorem decode_encode (cs : List Char) : decode (encode cs) = .ok cs := by
  rw [decode, pieces_encode, collect_map_char]
  rfl

theorem decodeLossy_encode (cs : List Char) : decodeLossy (encode cs) = cs := by
  rw [decodeLossy, pieces_encode, List.map_map]
  exact List.map_id cs

end LiveTree.Text.Utf8
