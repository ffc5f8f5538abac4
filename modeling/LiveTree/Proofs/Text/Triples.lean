import LiveTree.Proofs.Text.Utf8
import LiveTree.Text.Percent

namespace LiveTree.Text

namespace Percent

theorem encode_append (p : Char → Bool) (cs ds : List Char) :
    encode p (cs ++ ds) = encode p cs ++ encode p ds :=
  List.flatMap_append

theorem encode_eq_self {p : Char → Bool} {cs : List Char} (h : ∀ c ∈ cs, p c = false) :
    encode p cs = cs := by
  induction cs with
  | nil => rfl
  | cons c cs ih =>
      obtain ⟨hc, hcs⟩ := List.forall_mem_cons.1 h
      rw [encode, List.flatMap_cons, ← encode, ih hcs, hc]
      rfl

theorem decodeFrom_of_ne {b : UInt8} (h : b ≠ 0x25) (rest out : List UInt8) :
    decodeFrom (b :: rest) out = decodeFrom rest (b :: out) := by
  match rest with
  | [] | [_] => rfl
  | _ :: _ :: _ => rw [decodeFrom, if_neg h]

theorem digitValue?_upperDigit : ∀ n < 16, ∃ b,
    String.utf8EncodeChar (upperDigit n) = [b] ∧ digitValue? b = some n := by
  intro n hn
  refine ⟨UInt8.ofNat (upperDigit n).toNat, ?_⟩
  revert n
  decide

theorem decodeFrom_triple (b : UInt8) (rest out : List UInt8) :
    decodeFrom (Utf8.encode (triple b) ++ rest) out = decodeFrom rest (b :: out) := by
  have hb := b.toNat_lt
  obtain ⟨high, hhigh, hx⟩ := digitValue?_upperDigit (b.toNat / 16) (by omega)
  obtain ⟨low, hlow, hy⟩ := digitValue?_upperDigit (b.toNat % 16) (by omega)
  have htext : Utf8.encode (triple b) = [0x25, high, low] := by
    rw [triple, Utf8.encode_cons, Utf8.encode_cons, Utf8.encode_cons, hhigh, hlow]
    rfl
  have hbyte : UInt8.ofNat (b.toNat / 16 * 16 + b.toNat % 16) = b := by
    rw [Nat.div_add_mod', UInt8.ofNat_toNat]
  rw [htext, List.cons_append, List.cons_append, List.cons_append, decodeFrom, if_pos rfl, hx, hy]
  simp only [hbyte, List.nil_append]

theorem decodeFrom_triples (bytes rest out : List UInt8) :
    decodeFrom (Utf8.encode (bytes.flatMap triple) ++ rest) out =
      decodeFrom rest (bytes.reverse ++ out) := by
  induction bytes generalizing out with
  | nil => rfl
  | cons b bytes ih =>
      rw [List.flatMap_cons, Utf8.encode_append, List.append_assoc, decodeFrom_triple, ih,
        List.reverse_cons, List.append_assoc]
      rfl

def isBare (b : UInt8) : Bool :=
  b ≠ 0x25 && (digitValue? b).isNone

theorem exists_decodeFrom_append {b : UInt8} (hb : isBare b = true) (bytes out : List UInt8) :
    ∃ before, decodeFrom (bytes ++ [b]) out = before ++ [b] := by
  obtain ⟨-, hdigit⟩ : b ≠ 0x25 ∧ digitValue? b = none := by simpa [isBare] using hb
  induction hn : bytes.length using Nat.strongRecOn generalizing bytes out with
  | ind n ih =>
      match bytes with
      | [] => exact ⟨out.reverse, by simp [decodeFrom]⟩
      | [x] => exact ⟨out.reverse ++ [x], by simp [decodeFrom]⟩
      | [x, y] =>
          have hrest := ih 1 (by simp [← hn]) [y] (x :: out) rfl
          simpa [decodeFrom, hdigit] using hrest
      | x :: y :: z :: bytes =>
          have hshort := ih (y :: z :: bytes).length (by simp [← hn]) (y :: z :: bytes) (x :: out) rfl
          simp only [List.cons_append, decodeFrom]
          split
          · split
            · next high low _ _ =>
                exact ih bytes.length (by simp only [← hn, List.length_cons]; omega) bytes
                  (UInt8.ofNat (high * 16 + low) :: out) rfl
            · exact hshort
          · exact hshort

theorem exists_decode_append {b : UInt8} (hb : isBare b = true) (bytes : List UInt8) :
    ∃ before, decode (bytes ++ [b]) = before ++ [b] :=
  exists_decodeFrom_append hb bytes []

end Percent

end LiveTree.Text
