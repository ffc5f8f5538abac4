import LiveTree.Proofs.Text.Ascii
import LiveTree.Proofs.Text.Triples
import LiveTree.Text.Form

namespace LiveTree.Text.Form

def isWritten (c : Char) : Bool :=
  isRaw c || c = '+' || c = '%' || c = '&' || c = '='

def isInPart (c : Char) : Bool :=
  isRaw c || c = '+' || c = '%'

theorem isInPart_of_isRaw {c : Char} (h : isRaw c = true) : isInPart c = true := by
  rw [isInPart, h]
  rfl

theorem isWritten_of_isInPart {c : Char} (h : isInPart c = true) : isWritten c = true := by
  have hpart : isRaw c || c = '+' || c = '%' := h
  rw [isWritten, hpart]
  rfl

theorem isRaw_upperDigit : ∀ n < 16, isRaw (Percent.upperDigit n) = true := by
  decide

theorem eq_or_isRaw_of_mem_triple {b : UInt8} {c : Char} (h : c ∈ Percent.triple b) :
    c = '%' ∨ isRaw c = true := by
  have hb := b.toNat_lt
  simp only [Percent.triple, List.mem_cons, List.not_mem_nil, or_false] at h
  rcases h with rfl | rfl | rfl
  · exact .inl rfl
  · exact .inr (isRaw_upperDigit _ (by omega))
  · exact .inr (isRaw_upperDigit _ (by omega))

theorem isInPart_of_mem {cs : List Char} {d : Char} (hd : d ∈ encodePart cs) :
    isInPart d = true := by
  obtain ⟨c, -, hd⟩ := List.mem_flatMap.1 hd
  rw [encodeChar] at hd
  split at hd
  · rw [List.mem_singleton.1 hd]
    decide
  split at hd
  · next hraw =>
      rw [List.mem_singleton.1 hd]
      exact isInPart_of_isRaw hraw
  · obtain ⟨b, -, hd⟩ := List.mem_flatMap.1 hd
    rcases eq_or_isRaw_of_mem_triple hd with rfl | hraw
    · decide
    · exact isInPart_of_isRaw hraw

theorem not_mem_encodePart {mark : Char} (h : isInPart mark = false) (cs : List Char) :
    mark ∉ encodePart cs := by
  intro hmem
  rw [isInPart_of_mem hmem] at h
  cases h

theorem all_encodePart (cs : List Char) : (encodePart cs).all isWritten = true :=
  List.all_eq_true.2 fun _ hd => isWritten_of_isInPart (isInPart_of_mem hd)

theorem all_encodePair (pair : String × String) : (encodePair pair).all isWritten = true := by
  have hmark : isWritten '=' = true := by decide
  rw [encodePair, List.all_append, List.all_cons, all_encodePart, all_encodePart, hmark]
  rfl

theorem all_encode (pairs : List (String × String)) : (encode pairs).all isWritten = true := by
  have hmark : isWritten '&' = true := by decide
  rw [encode]
  induction pairs with
  | nil => rfl
  | cons pair pairs ih =>
      cases pairs with
      | nil => simpa [List.intercalate] using List.all_eq_true.1 (all_encodePair pair)
      | cons next pairs =>
          have hjoin : List.intercalate ['&'] ((pair :: next :: pairs).map encodePair) =
              encodePair pair ++ '&' :: List.intercalate ['&'] ((next :: pairs).map encodePair) := by
            simp [List.intercalate]
          rw [hjoin, List.all_append, List.all_cons, all_encodePair, hmark, ih]
          rfl

theorem bounds_of_isWritten {c : Char} (h : isWritten c = true) :
    0x25 ≤ c.toNat ∧ c.toNat ≤ 0x7A := by
  simp only [isWritten, isRaw, Bool.or_eq_true, decide_eq_true_eq] at h
  have hclass (halnum : c.isAlphanum = true) : 0x25 ≤ c.val.toNat ∧ c.val.toNat ≤ 0x7A := by
    change (decide (c.val ≥ 65 ∧ c.val ≤ 90) || (c.val ≥ 97 && c.val ≤ 122) ||
      (c.val ≥ 48 && c.val ≤ 57)) = true at halnum
    simp only [Bool.or_eq_true, Bool.and_eq_true, decide_eq_true_eq, ge_iff_le,
      UInt32.le_iff_toNat_le] at halnum
    change (65 ≤ c.val.toNat ∧ c.val.toNat ≤ 90 ∨ 97 ≤ c.val.toNat ∧ c.val.toNat ≤ 122) ∨
      48 ≤ c.val.toNat ∧ c.val.toNat ≤ 57 at halnum
    omega
  rcases h with ((((((((h | rfl) | rfl) | rfl) | rfl) | rfl) | rfl) | rfl) | rfl)
  · exact hclass h
  all_goals decide

theorem ne_marks_of_isRaw {c : Char} (h : isRaw c = true) : c ≠ '+' ∧ c ≠ '%' := by
  constructor
  all_goals
    rintro rfl
    revert h
    decide

theorem plusToBlank_of_mem_triple {b : UInt8} {c : Char} (h : c ∈ Percent.triple b) :
    plusToBlank c = c := by
  rcases eq_or_isRaw_of_mem_triple h with rfl | hraw
  · rfl
  · exact if_neg (ne_marks_of_isRaw hraw).1

theorem decodeFrom_encodeChar (c : Char) (rest out : List UInt8) :
    Percent.decodeFrom (Utf8.encode ((encodeChar c).map plusToBlank) ++ rest) out =
      Percent.decodeFrom rest ((String.utf8EncodeChar c).reverse ++ out) := by
  rw [encodeChar]
  split
  · next hblank =>
      rw [hblank]
      exact Percent.decodeFrom_of_ne (by decide) rest out
  split
  · next hraw =>
      obtain ⟨hplus, hpercent⟩ := ne_marks_of_isRaw hraw
      have hbounds := bounds_of_isWritten (isWritten_of_isInPart (isInPart_of_isRaw hraw))
      have hbyte : UInt8.ofNat c.toNat ≠ 0x25 := by
        rw [Ne, Utf8.ofNat_eq_iff (by omega)]
        exact fun heq => hpercent (Char.toNat_inj.1 heq)
      rw [List.map_cons, List.map_nil, plusToBlank, if_neg hplus, Utf8.encode_cons,
        Utf8.utf8EncodeChar_ascii (by omega)]
      exact Percent.decodeFrom_of_ne hbyte rest out
  · have hmap : ((String.utf8EncodeChar c).flatMap Percent.triple).map plusToBlank =
        (String.utf8EncodeChar c).flatMap Percent.triple := by
      refine (List.map_congr_left fun d hd => ?_).trans (List.map_id _)
      obtain ⟨b, -, hd⟩ := List.mem_flatMap.1 hd
      exact plusToBlank_of_mem_triple hd
    rw [hmap, Percent.decodeFrom_triples]

theorem decodePart_encodePart (cs : List Char) : decodePart (encodePart cs) = String.ofList cs := by
  have hfrom (out : List UInt8) : Percent.decodeFrom (Utf8.encode ((encodePart cs).map plusToBlank))
      out = out.reverse ++ Utf8.encode cs := by
    induction cs generalizing out with
    | nil => simp [encodePart, Utf8.encode, Percent.decodeFrom]
    | cons c cs ih =>
        rw [encodePart, List.flatMap_cons, List.map_append, Utf8.encode_append,
          decodeFrom_encodeChar, ← encodePart, ih, Utf8.encode_cons]
        simp
  rw [decodePart, Percent.decode, hfrom, List.reverse_nil, List.nil_append,
    Utf8.decodeLossy_encode]

theorem decodePair_encodePair (pair : String × String) : decodePair (encodePair pair) = pair := by
  have hmark : ∀ c ∈ encodePart pair.1.toList, decide (c ≠ '=') = true := by
    intro c hc
    refine decide_eq_true fun heq => ?_
    exact not_mem_encodePart (by decide) pair.1.toList (heq ▸ hc)
  have hname : (encodePair pair).takeWhile (· ≠ '=') = encodePart pair.1.toList := by
    rw [encodePair, List.takeWhile_append_of_pos hmark, List.takeWhile_cons_of_neg (by simp),
      List.append_nil]
  have hvalue : (encodePair pair).drop ((encodePart pair.1.toList).length + 1) =
      encodePart pair.2.toList := by
    rw [encodePair, List.drop_length_add_append]
    rfl
  rw [decodePair, hname, hvalue, decodePart_encodePart, decodePart_encodePart,
    String.ofList_toList, String.ofList_toList]

theorem encodePair_ne_nil (pair : String × String) : encodePair pair ≠ [] := by
  simp [encodePair]

theorem decode_encode (pairs : List (String × String)) : decode (encode pairs) = pairs := by
  cases pairs with
  | nil => rfl
  | cons pair pairs =>
      have hmarks : ∀ part ∈ (pair :: pairs).map encodePair, '&' ∉ part := by
        simp only [List.forall_mem_map, encodePair, List.mem_append, List.mem_cons, not_or]
        exact fun _ _ => ⟨not_mem_encodePart (by decide) _, by decide,
          not_mem_encodePart (by decide) _⟩
      have hfull : ((pair :: pairs).map encodePair).filter (· ≠ []) =
          (pair :: pairs).map encodePair := by
        refine List.filter_eq_self.2 ?_
        simp only [List.forall_mem_map, decide_eq_true_eq]
        exact fun pair _ => encodePair_ne_nil pair
      rw [decode, encode, splitOn_intercalate (by simp) hmarks, hfull, List.map_map]
      exact List.map_id'' decodePair_encodePair _

theorem encode_eq_nil_iff (pairs : List (String × String)) : encode pairs = [] ↔ pairs = [] := by
  constructor
  · intro hnil
    rw [← decode_encode pairs, hnil]
    rfl
  · rintro rfl
    rfl

end LiveTree.Text.Form
