import LiveTree.Proofs.Text.Utf8

namespace LiveTree.Text.Utf8

theorem ofNat_lt_ofNat {m n : Nat} (hm : m < 256) (hn : n < 256) :
    UInt8.ofNat m < UInt8.ofNat n ↔ m < n := by
  rw [ofNat_lt_iff hm, UInt8.toNat_ofNat_of_lt' hn]

theorem ofNat_eq_ofNat {m n : Nat} (hm : m < 256) (hn : n < 256) :
    UInt8.ofNat m = UInt8.ofNat n ↔ m = n := by
  rw [ofNat_eq_iff hm, UInt8.toNat_ofNat_of_lt' hn]

theorem utf8EncodeChar_lt {c d : Char} (h : c < d) (xs ys : List UInt8) :
    String.utf8EncodeChar c ++ xs < String.utf8EncodeChar d ++ ys := by
  have hlt : c.val.toNat < d.val.toNat := h
  have hd : d.val.toNat < 0xD800 ∨ 0xDFFF < d.val.toNat ∧ d.val.toNat < 0x110000 := d.valid
  rw [String.utf8EncodeChar, String.utf8EncodeChar]
  generalize c.val.toNat = m at hlt
  generalize d.val.toNat = n at hlt hd
  -- six bits a byte: what is left of a code point behind one byte is what the next one takes
  have hsix (k : Nat) : k / 64 / 64 = k / 4096 := Nat.div_div_eq_div_mul k 64 64
  have htwelve (k : Nat) : k / 4096 / 64 = k / 262144 := Nat.div_div_eq_div_mul k 4096 64
  have := hsix m
  have := hsix n
  have := htwelve m
  have := htwelve n
  have : m / 262144 < 8 ∧ n / 262144 < 8 := by omega
  -- code points in order differ in one of their four groups, the groups before it being equal
  have : m / 262144 < n / 262144 ∨ m / 262144 = n / 262144 ∧ (m / 4096 < n / 4096 ∨
      m / 4096 = n / 4096 ∧ (m / 64 < n / 64 ∨ m / 64 = n / 64 ∧ m % 64 < n % 64)) := by
    omega
  repeat' split
  all_goals
    simp only [List.cons_append, List.nil_append, List.cons_lt_cons_iff]
    repeat rw [ofNat_lt_ofNat (by omega) (by omega)]
    repeat rw [ofNat_eq_ofNat (by omega) (by omega)]
    omega

theorem encode_lt {cs ds : List Char} (h : cs < ds) : encode cs < encode ds := by
  induction cs generalizing ds with
  | nil =>
      cases ds with
      | nil => exact absurd h (List.not_lt_nil [])
      | cons d ds =>
          rw [encode_cons]
          cases hd : String.utf8EncodeChar d with
          | nil => exact absurd hd String.utf8EncodeChar_ne_nil
          | cons b bytes => exact List.nil_lt_cons _ _
  | cons c cs ih =>
      cases ds with
      | nil => exact absurd h (List.not_lt_nil _)
      | cons d ds =>
          rw [encode_cons, encode_cons]
          rcases List.cons_lt_cons_iff.1 h with hlt | ⟨rfl, hrest⟩
          · exact utf8EncodeChar_lt hlt _ _
          · exact List.append_left_lt (ih hrest)

end LiveTree.Text.Utf8
