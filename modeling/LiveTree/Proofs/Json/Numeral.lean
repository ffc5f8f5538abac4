import LiveTree.Proofs.Json.Taking

namespace LiveTree.Json

open Text.Utf8 (encode encode_cons)

def digitByte (d : Nat) : UInt8 :=
  UInt8.ofNat (0x30 + d)

theorem utf8EncodeChar_digitChar :
    ∀ d < 10, String.utf8EncodeChar (Nat.digitChar d) = [digitByte d] := by
  decide

theorem isDigit_digitByte : ∀ d < 10, isDigit (digitByte d) = true := by
  decide

theorem toNat_digitByte : ∀ d < 10, (digitByte d).toNat - 0x30 = d := by
  decide

theorem digitByte_eq_zero_iff : ∀ d < 10, digitByte d = 0x30 ↔ d = 0 := by
  decide

theorem digitByte_ne_minus : ∀ d < 10, digitByte d ≠ 0x2D := by
  decide

theorem encode_digits {ds : List Nat} (h : ∀ d ∈ ds, d < 10) :
    encode (ds.map Nat.digitChar) = ds.map digitByte := by
  induction ds with
  | nil => rfl
  | cons d ds ih =>
      obtain ⟨hd, hds⟩ := List.forall_mem_cons.1 h
      rw [List.map_cons, encode_cons, utf8EncodeChar_digitChar d hd, ih hds, List.map_cons,
        List.singleton_append]

theorem any_isDigit_of_stops {rest : List UInt8} (h : stopsNumber rest = true) :
    rest.head?.any isDigit = false := by
  cases rest with
  | nil => rfl
  | cons b rest => exact (continuesNumber_of_stops h).1

theorem spanDigits_digits {ds : List Nat} (h : ∀ d ∈ ds, d < 10) {rest : List UInt8}
    (hrest : rest.head?.any isDigit = false) (passed : Nat) (out : List Nat) : ∃ now,
    spanDigits (ds.map digitByte ++ rest) passed out = (out.reverse ++ ds, ⟨rest, now⟩) := by
  induction ds generalizing passed out with
  | nil =>
      refine ⟨passed, ?_⟩
      cases rest with
      | nil => simp [spanDigits]
      | cons b rest =>
          have hb : isDigit b = false := hrest
          simp [spanDigits, hb]
  | cons d ds ih =>
      obtain ⟨hd, hds⟩ := List.forall_mem_cons.1 h
      obtain ⟨now, hnow⟩ := ih hds (passed + 1) (d :: out)
      refine ⟨now, ?_⟩
      rw [List.map_cons, List.cons_append, spanDigits, if_pos (isDigit_digitByte d hd),
        toNat_digitByte d hd, hnow]
      simp

theorem pushWhole_of_lt {n d : Nat} (h : n * 10 + d < 0x10000000000000000) (tens : Int) :
    Gathered.pushWhole ⟨n, tens, false⟩ d = ⟨n * 10 + d, tens, false⟩ := by
  rw [Gathered.pushWhole, if_pos (by simpa [Gathered.fits] using h)]

theorem exists_digits {n : Nat} (h : n < 0x10000000000000000) : ∃ d ds,
    Nat.toDigits 10 n = (d :: ds).map Nat.digitChar ∧ (∀ e ∈ d :: ds, e < 10) ∧
      Gathered.ofWhole (d :: ds) = ⟨n, 0, false⟩ ∧ (d = 0 → n = 0 ∧ ds = []) := by
  induction n using Nat.strongRecOn with
  | ind n ih =>
      by_cases hn : n < 10
      · refine ⟨n, [], Nat.toDigits_of_lt_base hn, by simpa using hn, ?_, fun h => ⟨h, rfl⟩⟩
        have hpush := pushWhole_of_lt (n := 0) (d := n) (by omega) 0
        rwa [Nat.zero_mul, Nat.zero_add] at hpush
      · obtain ⟨d, ds, hdigits, hlt, hwhole, hzero⟩ := ih (n / 10) (by omega) (by omega)
        refine ⟨d, ds ++ [n % 10], ?_, ?_, ?_, ?_⟩
        · rw [Nat.toDigits_of_base_le (by decide) (by omega), hdigits]
          simp
        · intro e he
          rw [← List.cons_append, List.mem_append, List.mem_singleton] at he
          rcases he with he | rfl
          · exact hlt e he
          · omega
        · have hsum : n / 10 * 10 + n % 10 = n := by omega
          rw [Gathered.ofWhole] at hwhole
          rw [Gathered.ofWhole, ← List.cons_append, List.foldl_append, hwhole, List.foldl_cons,
            List.foldl_nil, pushWhole_of_lt (by omega), hsum]
        · intro hd
          have := (hzero hd).1
          omega

theorem readAfterWhole_of_stops {rest : List UInt8} (h : stopsNumber rest = true)
    (negative : Bool) (g : Gathered) (passed : Nat) :
    readAfterWhole negative g ⟨rest, passed⟩ = finishWhole negative g ⟨rest, passed⟩ := by
  cases rest with
  | nil => rfl
  | cons b rest =>
      obtain ⟨-, hpoint, hletter⟩ := continuesNumber_of_stops h
      simp [readAfterWhole, byte?_cons, hpoint, hletter]

theorem readUnsigned_digits {n : Nat} (h : n < 0x10000000000000000) (negative : Bool) {rest : List UInt8}
    (hrest : stopsNumber rest = true) (passed : Nat) : ∃ now,
    readUnsigned negative ⟨encode (Nat.toDigits 10 n) ++ rest, passed⟩ =
      finishWhole negative ⟨n, 0, false⟩ ⟨rest, now⟩ := by
  obtain ⟨d, ds, hdigits, hlt, hwhole, hzero⟩ := exists_digits h
  obtain ⟨hd, -⟩ := List.forall_mem_cons.1 hlt
  rw [hdigits, encode_digits hlt]
  by_cases hz : d = 0
  · obtain ⟨rfl, rfl⟩ := hzero hz
    subst hz
    refine ⟨passed + 1, ?_⟩
    rw [← readAfterWhole_of_stops hrest]
    cases rest with
    | nil => rfl
    | cons b rest =>
        have hdigit := (continuesNumber_of_stops hrest).1
        simp [readUnsigned, digitByte, byte?_cons, next_cons, hdigit]
  · obtain ⟨now, hspan⟩ := spanDigits_digits hlt (any_isDigit_of_stops hrest) passed []
    refine ⟨now, ?_⟩
    rw [← readAfterWhole_of_stops hrest, ← hwhole]
    have hbyte : digitByte d ≠ 0x30 := fun he => hz ((digitByte_eq_zero_iff d hd).1 he)
    have hdigit := isDigit_digitByte d hd
    rw [List.map_cons, List.cons_append] at hspan ⊢
    simp only [readUnsigned, byte?_cons, if_neg hbyte, hdigit, if_true, Cursor.digits, hspan,
      List.reverse_nil, List.nil_append]

def fits64 (n : Int) : Bool :=
  -0x8000000000000000 ≤ n && n < 0x10000000000000000

theorem readNumber_whole {n : Int} (h : fits64 n = true) :
    Takes readNumber (Number.render (.whole n)) (.whole n) := by
  intro rest passed hrest
  obtain ⟨hlow, hhigh⟩ : -0x8000000000000000 ≤ n ∧ n < 0x10000000000000000 := by simpa [fits64] using h
  rw [Number.render]
  by_cases hn : n < 0
  · obtain ⟨now, hnow⟩ := readUnsigned_digits (n := n.natAbs) (by omega) true hrest (passed + 1)
    refine ⟨now, ?_⟩
    have hpos : 0 < n.natAbs := by omega
    have hle : n.natAbs ≤ 0x8000000000000000 := by omega
    have hneg : -(n.natAbs : Int) = n := by omega
    rw [if_pos hn, encode_cons]
    calc readNumber ⟨0x2D :: (encode (Nat.toDigits 10 n.natAbs) ++ rest), passed⟩
        = readUnsigned true ⟨encode (Nat.toDigits 10 n.natAbs) ++ rest, passed + 1⟩ := rfl
      _ = .ok (.whole n, ⟨rest, now⟩) := by
          rw [hnow]
          simp only [finishWhole, hpos, hle, hneg, decide_true, Bool.and_self, Bool.false_eq_true,
            if_true, if_false]
  · obtain ⟨now, hnow⟩ := readUnsigned_digits (n := n.natAbs) (by omega) false hrest passed
    refine ⟨now, ?_⟩
    have habs : (n.natAbs : Int) = n := by omega
    obtain ⟨d, ds, hdigits, hlt, -⟩ := exists_digits (n := n.natAbs) (by omega)
    have hminus := digitByte_ne_minus d (List.forall_mem_cons.1 hlt).1
    have hsign : readNumber ⟨encode (Nat.toDigits 10 n.natAbs) ++ rest, passed⟩ =
        readUnsigned false ⟨encode (Nat.toDigits 10 n.natAbs) ++ rest, passed⟩ := by
      rw [hdigits, encode_digits hlt, readNumber, if_neg]
      simp [byte?_cons, hminus]
    rw [if_neg hn, hsign, hnow]
    simp [finishWhole, habs]

end LiveTree.Json
