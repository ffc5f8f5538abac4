import Mathlib.Data.List.Induction
import Mathlib.Data.Nat.Digits.Defs
import LiveTree.Proofs.Json.Fitting

namespace LiveTree.Json

open Text.Utf8 (encode encode_append)

def withSign (negative : Bool) (n : Nat) : Int :=
  if negative then -n else n

namespace Numeral

def digits (l : Numeral) : List Nat :=
  (l.first :: l.more).map Fin.val

def magnitude (l : Numeral) : Nat :=
  Nat.ofDigits 10 l.digits.reverse

/-- The integer that a numeral writes, if it has neither point nor exponent. -/
def whole (l : Numeral) : Int :=
  withSign l.negative l.magnitude

def isWhole (l : Numeral) : Bool :=
  l.fraction.isNone && l.exponent.isNone

/-- Whether a tree keeps an integer as such: 64 bits hold it, and it is not minus zero. -/
def isKept (l : Numeral) : Bool :=
  fits64 l.whole && !(l.negative && l.whole = 0)

end Numeral

section Kept

theorem wholeOf_eq (ds : List Nat) : wholeOf ds = Nat.ofDigits 10 ds.reverse := by
  rw [wholeOf, Nat.ofDigits_eq_foldr, List.foldr_reverse]
  congr 1
  funext n d
  simp [Nat.mul_comm, Nat.add_comm]

theorem wholeOf_concat (ds : List Nat) (d : Nat) : wholeOf (ds ++ [d]) = wholeOf ds * 10 + d := by
  rw [wholeOf, List.foldl_append]
  rfl

/-- Digits enter as long as 64 bits hold what they make. -/
theorem ofWhole_cases (ds : List Nat) :
    wholeOf ds < 0x10000000000000000 ∧ Gathered.ofWhole ds = ⟨wholeOf ds, 0, false⟩ ∨
      0x10000000000000000 ≤ wholeOf ds ∧ (Gathered.ofWhole ds).full = true := by
  induction ds using List.reverseRecOn with
  | nil => exact .inl ⟨by decide, rfl⟩
  | append_singleton ds d ih =>
      have hpush : Gathered.ofWhole (ds ++ [d]) = (Gathered.ofWhole ds).pushWhole d := by
        rw [Gathered.ofWhole, List.foldl_append]
        rfl
      rw [wholeOf_concat, hpush]
      obtain ⟨hlt, hwhole⟩ | ⟨hle, hfull⟩ := ih
      · rw [hwhole]
        by_cases h : wholeOf ds * 10 + d < 0x10000000000000000
        · exact .inl ⟨h, pushWhole_of_lt h 0⟩
        · refine .inr ⟨by omega, ?_⟩
          rw [Gathered.pushWhole, if_neg (by simpa [Gathered.fits] using h)]
      · refine .inr ⟨by omega, ?_⟩
        rw [Gathered.pushWhole, if_neg (by simp [Gathered.fits, hfull])]

variable {negative : Bool} {g : Gathered} {c d : Cursor} {k : Int}

theorem finishDouble_ne_whole : finishDouble negative g c ≠ .ok (.whole k, d) := by
  rw [finishDouble]
  cases Decimal.Binary64.scale g.significand g.tens <;> simp [signed]

theorem readExponent_ne_whole : readExponent negative g c ≠ .ok (.whole k, d) := by
  simp only [readExponent, readExponentDigits]
  split
  · simp
  · split
    · split
      · exact finishDouble_ne_whole
      · split <;> simp [signed]
    · simp

theorem readFraction_ne_whole : readFraction negative g c ≠ .ok (.whole k, d) := by
  rw [readFraction]
  split
  · simp
  · simp only
    split
    · split
      · exact readExponent_ne_whole
      · exact finishDouble_ne_whole
    · exact finishDouble_ne_whole

theorem finishWhole_eq_whole_iff {ds : List Nat} :
    (∃ d, finishWhole negative (Gathered.ofWhole ds) c = .ok (.whole k, d)) ↔
      k = withSign negative (wholeOf ds) ∧ fits64 k = true ∧ (negative = true → k ≠ 0) := by
  simp only [fits64, Bool.and_eq_true, decide_eq_true_eq]
  obtain ⟨hlt, hwhole⟩ | ⟨hle, hfull⟩ := ofWhole_cases ds
  · rw [hwhole, finishWhole, if_neg Bool.false_ne_true]
    cases negative with
    | true =>
        have hsign : withSign true (wholeOf ds) = -(wholeOf ds : Int) := rfl
        rw [if_pos rfl, hsign]
        by_cases h : 0 < wholeOf ds ∧ wholeOf ds ≤ 0x8000000000000000
        · rw [if_pos (by simpa using h)]
          constructor
          · rintro ⟨d, hd⟩
            obtain rfl : -(wholeOf ds : Int) = k :=
              Number.whole.inj (Prod.mk.inj (Except.ok.inj hd)).1
            exact ⟨rfl, by omega, fun _ => by omega⟩
          · rintro ⟨rfl, -⟩
            exact ⟨c, rfl⟩
        · rw [if_neg (by simpa using h)]
          constructor
          · rintro ⟨d, hd⟩
            cases hd
          · rintro ⟨rfl, ⟨hlow, -⟩, hzero⟩
            have := hzero rfl
            omega
    | false =>
        have hsign : withSign false (wholeOf ds) = (wholeOf ds : Int) := rfl
        rw [if_neg Bool.false_ne_true, hsign]
        constructor
        · rintro ⟨d, hd⟩
          obtain rfl : (wholeOf ds : Int) = k :=
            Number.whole.inj (Prod.mk.inj (Except.ok.inj hd)).1
          exact ⟨rfl, by omega, fun h => absurd h Bool.false_ne_true⟩
        · rintro ⟨rfl, -⟩
          exact ⟨c, rfl⟩
  · rw [finishWhole, if_pos hfull]
    constructor
    · rintro ⟨d, hd⟩
      exact absurd hd finishDouble_ne_whole
    · rintro ⟨rfl, ⟨hlow, hhigh⟩, -⟩
      cases negative with
      | true => simp only [withSign, if_true] at hlow; omega
      | false => simp only [withSign, Bool.false_eq_true, if_false] at hhigh; omega

theorem Numeral.isKept_iff (l : Numeral) : l.isKept = true ↔
    fits64 l.whole = true ∧ (l.negative = true → l.whole ≠ 0) := by
  rw [Numeral.isKept]
  cases l.negative <;> simp

/-- A numeral means an integer exactly if it writes one that a tree keeps. -/
theorem Numeral.value?_eq_whole_iff (l : Numeral) :
    l.value? = some (.whole k) ↔ l.isWhole = true ∧ l.isKept = true ∧ k = l.whole := by
  have hstops : stopsNumber [] = true := rfl
  obtain ⟨now, hnow⟩ := exists_readNumber l hstops 0
  have hvalue : l.value? = some (.whole k) ↔
      ∃ d, readNumber (Cursor.start (encode l.text)) = .ok (.whole k, d) := by
    rw [Numeral.value?]
    cases readNumber (Cursor.start (encode l.text)) with
    | error f => simp [Except.toOption]
    | ok r => simp [Except.toOption, Prod.ext_iff]
  rw [List.append_nil, List.append_nil] at hnow
  rw [hvalue, Cursor.start, hnow, Numeral.isWhole]
  cases hfraction : l.fraction with
  | some f =>
      have hpoint : encode (tailText (some f) l.exponent) =
          0x2E :: encode (digitsText (f.1 :: f.2) ++ l.exponent.elim [] Exponent.text) := rfl
      simp [hpoint, readAfterWhole, byte?_cons, next_cons, readFraction_ne_whole]
  | none =>
      cases hexponent : l.exponent with
      | some e =>
          obtain ⟨b, hletter, hencode⟩ := encode_exponent e
          obtain ⟨-, hpoint⟩ := ne_of_isExponentLetter hletter
          simp [tailText, hencode, readAfterWhole, byte?_cons, next_cons, hpoint, hletter,
            readExponent_ne_whole]
      | none =>
          have htail : readAfterWhole l.negative (Gathered.ofWhole ((l.first :: l.more).map Fin.val))
              ⟨encode (tailText none none), now⟩ =
                finishWhole l.negative (Gathered.ofWhole l.digits) ⟨[], now⟩ := rfl
          rw [htail, finishWhole_eq_whole_iff, wholeOf_eq]
          have hwhole : withSign l.negative (Nat.ofDigits 10 l.digits.reverse) = l.whole := rfl
          rw [hwhole]
          constructor
          · rintro ⟨rfl, hkept⟩
            exact ⟨rfl, l.isKept_iff.2 hkept, rfl⟩
          · rintro ⟨-, hkept, rfl⟩
            exact ⟨rfl, l.isKept_iff.1 hkept⟩

end Kept

section Reading

variable {i : IntegerType} {l : Numeral} {n : Nat} {t : List Char} {o : Option Json} {v : Json}
  {c d : Cursor} {rest : List UInt8}

/-- Whether an integer type takes the integer that a numeral writes. -/
def IntegerType.takes (i : IntegerType) (l : Numeral) : Bool :=
  (i.isSigned || !l.negative) && (i.least ≤ l.whole && l.whole ≤ i.greatest)

theorem exists_readDigits (l : Numeral) (hrest : stopsNumber rest = true) (passed : Nat) : ∃ now,
    readDigits
        ⟨encode (digitsText (l.first :: l.more) ++ tailText l.fraction l.exponent) ++ rest, passed⟩ =
      .ok (l.digits, ⟨encode (tailText l.fraction l.exponent) ++ rest, now⟩) := by
  rw [Numeral.digits]
  obtain ⟨hzero, hbytes, htail⟩ | ⟨b, more, now, hbytes, hb, hdigit, hdigits⟩ :=
    digits_numeral l hrest passed
  · refine ⟨passed + 1, ?_⟩
    rw [hbytes, hzero, readDigits, byte?_cons, next_cons, Cursor.byte?, htail]
    rfl
  · refine ⟨now, ?_⟩
    rw [hbytes]
    simp only [readDigits, byte?_cons, if_neg hb, hdigit, if_true, hdigits]

theorem whole_eq (l : Numeral) : l.whole = withSign l.negative (wholeOf l.digits) := by
  rw [wholeOf_eq]
  rfl

theorem exists_readMagnitude (i : IntegerType) (l : Numeral) (hrest : stopsNumber rest = true)
    (passed : Nat) : ∃ now f,
    i.readMagnitude l.negative
        ⟨encode (digitsText (l.first :: l.more) ++ tailText l.fraction l.exponent) ++ rest, passed⟩ =
      if i.least ≤ l.whole && l.whole ≤ i.greatest then
        .ok (.number (.whole l.whole), ⟨encode (tailText l.fraction l.exponent) ++ rest, now⟩)
      else .error f := by
  obtain ⟨now, hnow⟩ := exists_readDigits l hrest passed
  refine ⟨now, ⟨.numberOutOfRange, now⟩, ?_⟩
  rw [IntegerType.readMagnitude, hnow, ok_bind, whole_eq]
  rfl

/-- The reader of wide integers takes the digits of a numeral and leaves the rest behind. -/
theorem exists_readWide (i : IntegerType) (hrest : stopsNumber rest = true)
    (hc : c.At (encode l.text ++ rest)) : ∃ now f, i.readWide c =
      if i.takes l then
        .ok (.number (.whole l.whole), ⟨encode (tailText l.fraction l.exponent) ++ rest, now⟩)
      else .error f := by
  have hread := exists_readMagnitude i l hrest
  rw [Numeral.text] at hc
  rw [IntegerType.takes]
  cases hsign : l.negative with
  | true =>
      rw [hsign] at hc hread
      obtain ⟨start, hstart⟩ := Cursor.At.skipBlanks (b := 0x2D) rfl hc
      rw [IntegerType.readWide, firstByte_eq hstart, ok_bind]
      cases hsigned : i.isSigned with
      | false => exact ⟨0, _, rfl⟩
      | true => exact hread (start + 1)
  | false =>
      have hdigit := isDigit_digitByte l.first l.first.isLt
      have hminus := digitByte_ne_minus l.first l.first.isLt
      obtain ⟨hblank, -⟩ := ne_of_isNumberStart (b := digitByte l.first) (by simp [isNumberStart, hdigit])
      rw [hsign] at hread
      rw [hsign, if_neg Bool.false_ne_true, List.nil_append, encode_append,
        encode_digitsText_cons, List.cons_append, List.cons_append] at hc
      obtain ⟨start, hstart⟩ := hc.skipBlanks hblank
      obtain ⟨now, f, hnow⟩ := hread start
      refine ⟨now, f, ?_⟩
      rw [IntegerType.readWide, firstByte_eq hstart, ok_bind]
      simp only [hminus, if_false, Bool.not_false, Bool.or_true, Bool.true_and]
      rw [← hnow, encode_append, encode_digitsText_cons]
      rfl

theorem readWide_of_not_number {b : UInt8} {bytes : List UInt8} (hb : isNumberStart b = false)
    (hblank : Cursor.isBlank b = false) (hc : c.At (b :: bytes)) : ∃ f, i.readWide c = .error f := by
  obtain ⟨hminus, hdigit⟩ : b ≠ 0x2D ∧ isDigit b = false := by simpa [isNumberStart] using hb
  have hzero : b ≠ 0x30 := by
    rintro rfl
    cases hdigit
  obtain ⟨now, hnow⟩ := hc.skipBlanks hblank
  rw [IntegerType.readWide, firstByte_eq hnow, ok_bind]
  simp only [if_neg hminus, IntegerType.readMagnitude, readDigits, byte?_cons, if_neg hzero, hdigit]
  exact ⟨_, rfl⟩

end Reading

section Spelling

variable {i : IntegerType} {l : Numeral} {n : Nat} {t : List Char} {o : Option Json} {v : Json}

/-- A text that is a numeral between blanks. -/
def Spells (t : List Char) (l : Numeral) : Prop :=
  ∃ before after, (∀ c ∈ before, isWhite c = true) ∧ (∀ c ∈ after, isWhite c = true) ∧
    t = before ++ (l.text ++ after)

theorem Spells.text (l : Numeral) : Spells l.text l :=
  ⟨[], [], List.forall_mem_nil _, List.forall_mem_nil _, (List.append_nil _).symm⟩

theorem Spells.padded {before after : List Char} (hbefore : ∀ c ∈ before, isWhite c = true)
    (hafter : ∀ c ∈ after, isWhite c = true) (h : Spells t l) :
    Spells (before ++ (t ++ after)) l := by
  obtain ⟨first, last, hfirst, hlast, rfl⟩ := h
  exact ⟨before ++ first, last ++ after, List.forall_mem_append.2 ⟨hbefore, hfirst⟩,
    List.forall_mem_append.2 ⟨hlast, hafter⟩, by simp⟩

theorem Spells.means (h : Spells t l) (n : Nat) : Means n t (l.value?.map .number) := by
  obtain ⟨before, after, hbefore, hafter, rfl⟩ := h
  exact .padded hbefore hafter (.scalar n (.number l))

theorem Means.unique {o' : Option Json} (h : Means n t o) (h' : Means n t o')
    (hdepth : n < depthBudget) : o = o' := by
  rw [← Shape.fitted?_any o, ← Shape.fitted?_any o']
  ext j
  exact (h.ofBytes_narrow_iff hdepth rfl j).symm.trans (h'.ofBytes_narrow_iff hdepth rfl j)

/-- A text that means an integer spells one that a tree keeps. -/
theorem Means.exists_spells (h : Means n t o) {k : Int} (ho : o = some (.number (.whole k))) :
    ∃ l, Spells t l ∧ l.value? = some (.whole k) := by
  induction h with
  | padded hbefore hafter h ih =>
      obtain ⟨l, hspells, hvalue⟩ := ih ho
      exact ⟨l, hspells.padded hbefore hafter, hvalue⟩
  | scalar n h =>
      cases h with
      | null | bool b => cases ho
      | number l => exact ⟨l, .text l, by simpa using ho⟩
      | text gs => simp at ho
  | list hgap h => simp at ho
  | object hgap hkeys h => simp at ho

theorem Spells.readWide (h : Spells t l) (hl : l.isWhole = true) (ht : i.takes l = true) :
    readWhole (fun _ => i.readWide) (encode t) = .ok (.number (.whole l.whole)) := by
  obtain ⟨hfraction, hexponent⟩ : l.fraction = none ∧ l.exponent = none := by
    simpa [Numeral.isWhole] using hl
  have hsettles : Settles i.readWide l.text (some (.number (.whole l.whole))) := by
    intro rest c hrest hc
    obtain ⟨now, f, hnow⟩ := exists_readWide i hrest hc
    rw [hnow, if_pos ht, hfraction, hexponent]
    exact .found _ rfl
  obtain ⟨before, after, hbefore, hafter, rfl⟩ := h
  exact ((hsettles.padded hbefore hafter).readWhole_iff _).2 rfl

/-- What stands behind the digits of a numeral is no blank, if there is anything. -/
theorem isWhole_of_behindBlanks {rest : List UInt8}
    (h : behindBlanks (encode (tailText l.fraction l.exponent) ++ rest) = []) :
    l.isWhole = true := by
  rw [Numeral.isWhole]
  cases hfraction : l.fraction with
  | some f =>
      rw [hfraction] at h
      cases h
  | none =>
      cases hexponent : l.exponent with
      | none => rfl
      | some e =>
          obtain ⟨b, hletter, hencode⟩ := encode_exponent e
          have hblank : Cursor.isBlank b = false := by
            simp only [isExponentLetter, Bool.or_eq_true, decide_eq_true_eq] at hletter
            rcases hletter with rfl | rfl
            all_goals rfl
          rw [hfraction, hexponent, tailText, Option.elim_none, Option.elim_some, List.nil_append,
            hencode, List.cons_append, behindBlanks_cons hblank] at h
          cases h

theorem Means.spells_of_readWide (h : Means n t o) {rest : List UInt8} {c d : Cursor}
    (hstops : stopsNumber rest = true) (hrest : behindBlanks rest = [])
    (hc : c.At (encode t ++ rest)) (hread : i.readWide c = .ok (v, d))
    (hd : behindBlanks d.rest = []) :
    ∃ l, Spells t l ∧ l.isWhole = true ∧ i.takes l = true ∧ v = .number (.whole l.whole) := by
  have hfails {b : UInt8} {bytes : List UInt8} (hb : isNumberStart b = false)
      (hblank : Cursor.isBlank b = false) (hc : c.At (b :: bytes)) : False := by
    obtain ⟨f, hf⟩ := readWide_of_not_number (i := i) hb hblank hc
    exact nomatch hf.symm.trans hread
  induction h generalizing rest with
  | padded hbefore hafter h ih =>
      rw [encode_append, List.append_assoc, encode_append, List.append_assoc] at hc
      obtain ⟨l, hspells, hl⟩ := ih (stopsNumber_white hafter hstops)
        ((behindBlanks_white hafter rest).trans hrest) (hc.white hbefore)
      exact ⟨l, hspells.padded hbefore hafter, hl⟩
  | scalar n h =>
      cases h with
      | null => exact (hfails (b := 0x6E) rfl rfl hc).elim
      | bool b =>
          cases b with
          | true => exact (hfails (b := 0x74) rfl rfl hc).elim
          | false => exact (hfails (b := 0x66) rfl rfl hc).elim
      | text gs => exact (hfails (b := 0x22) rfl rfl hc).elim
      | number l =>
          obtain ⟨now, f, hnow⟩ := exists_readWide i hstops hc
          rw [hread] at hnow
          by_cases ht : i.takes l = true
          · rw [if_pos ht] at hnow
            obtain ⟨rfl, rfl⟩ := Prod.mk.inj (Except.ok.inj hnow)
            exact ⟨l, .text l, isWhole_of_behindBlanks hd, ht, rfl⟩
          · rw [if_neg ht] at hnow
            exact nomatch hnow
  | list hgap h => exact (hfails (b := 0x5B) rfl rfl hc).elim
  | object hgap hkeys h => exact (hfails (b := 0x7B) rfl rfl hc).elim

end Spelling

section Shapes

theorem exists_of_readWhole {α : Type} {reader : Nat → Reader α} {bytes : List UInt8} {x : α}
    (h : readWhole reader bytes = .ok x) : ∃ d,
    reader (fuelFor bytes) (Cursor.start bytes) = .ok (x, d) ∧ behindBlanks d.rest = [] := by
  rw [readWhole] at h
  split at h
  · cases h
  · next y d hread =>
      split at h
      · cases h
      · next hend =>
          obtain rfl := Except.ok.inj h
          refine ⟨d, hread, ?_⟩
          rw [readEnd, rest_skipBlanks] at hend
          split at hend
          · next hnil => exact List.isEmpty_iff.1 hnil
          · cases hend

variable {n : Nat} {t : List Char} {o : Option Json} {shape : Shape} {v : Json}

/-- An integer of a wide type that its reader takes from a text, while a tree does not keep it: one
that 64 bits do not hold, or minus zero. -/
def Shape.TakesBeyond (shape : Shape) (t : List Char) (v : Json) : Prop :=
  ∃ (i : IntegerType) (l : Numeral), shape = .scalar (.integer i) ∧ i.isWide = true ∧ Spells t l ∧
    l.isWhole = true ∧ l.isKept = false ∧ i.takes l = true ∧ v = .number (.whole l.whole)

theorem Shape.isWide_eq_false_or (shape : Shape) : shape.isWide = false ∨
    ∃ i : IntegerType, shape = .scalar (.integer i) ∧ i.isWide = true := by
  cases shape with
  | scalar s =>
      cases s with
      | integer i =>
          cases hi : i.isWide with
          | true => exact .inr ⟨i, rfl, hi⟩
          | false => exact .inl hi
      | double | boolean | text | unit => exact .inl rfl
  | integers | optionalText | integerMap | any => exact .inl rfl

theorem fitted?_integer_iff {i : IntegerType} : (Shape.scalar (.integer i)).fitted? o = some v ↔
    ∃ k, o = some (.number (.whole k)) ∧ i.least ≤ k ∧ k ≤ i.greatest ∧ v = .number (.whole k) := by
  have hfit (j : Json) : ((ScalarShape.integer i).fit j).toOption = some v ↔
      ∃ k, j = .number (.whole k) ∧ i.least ≤ k ∧ k ≤ i.greatest ∧ v = .number (.whole k) := by
    cases j with
    | number m =>
        cases m with
        | whole k =>
            rw [ScalarShape.fit, ScalarShape.fitNumber]
            simp only [Bool.and_eq_true, decide_eq_true_eq]
            split
            · next h =>
                constructor
                · exact fun hv => ⟨k, rfl, h.1, h.2, (Option.some.inj hv).symm⟩
                · rintro ⟨m, hm, -, -, rfl⟩
                  exact congrArg some hm
            · next h =>
                constructor
                · exact nofun
                · rintro ⟨m, hm, hleast, hgreatest, -⟩
                  cases hm
                  exact absurd ⟨hleast, hgreatest⟩ h
        | double x => simp [ScalarShape.fit, ScalarShape.fitNumber, misfit, Except.toOption]
    | null | bool | text | list | object => simp [ScalarShape.fit, misfit, Except.toOption]
  cases o with
  | none => simp [Shape.fitted?]
  | some j => simpa [Shape.fitted?, Shape.fit] using hfit j

theorem Means.ofBytes_wide_iff (h : Means n t o) {i : IntegerType} (hi : i.isWide = true) :
    (Shape.scalar (.integer i)).ofBytes (encode t) = .ok v ↔
      ∃ l, Spells t l ∧ l.isWhole = true ∧ i.takes l = true ∧ v = .number (.whole l.whole) := by
  have hreader : (Shape.scalar (.integer i)).read = fun _ => i.readWide := by
    funext fuel
    exact if_pos hi
  rw [Shape.ofBytes, hreader]
  constructor
  · intro hread
    obtain ⟨d, hread, hd⟩ := exists_of_readWhole hread
    have hstops : stopsNumber [] = true := rfl
    have hat : (Cursor.start (encode t)).At (encode t ++ []) := by
      rw [List.append_nil]
      rfl
    exact h.spells_of_readWide hstops rfl hat hread hd
  · rintro ⟨l, hspells, hl, ht, rfl⟩
    exact hspells.readWide hl ht

theorem takes_of_isKept {i : IntegerType} {l : Numeral} (hkept : l.isKept = true)
    (hleast : i.least ≤ l.whole) (hgreatest : l.whole ≤ i.greatest) : i.takes l = true := by
  have hsign : (i.isSigned || !l.negative) = true := by
    cases hsigned : i.isSigned with
    | true => rfl
    | false =>
        cases hnegative : l.negative with
        | false => rfl
        | true =>
            have hzero := (l.isKept_iff.1 hkept).2 hnegative
            have hle : l.whole ≤ 0 := by
              rw [Numeral.whole, hnegative, withSign, if_pos rfl]
              omega
            rw [IntegerType.least, hsigned, if_neg Bool.false_ne_true] at hleast
            exact absurd (Int.le_antisymm hle hleast) hzero
  simp [IntegerType.takes, hsign, hleast, hgreatest]

/-- What a text is read as, by its meaning, and by what the wide types take beyond it. -/
theorem Means.ofBytes_iff (h : Means n t o) (hdepth : n < depthBudget) (shape : Shape) (v : Json) :
    shape.ofBytes (encode t) = .ok v ↔ shape.fitted? o = some v ∨ shape.TakesBeyond t v := by
  obtain hshape | ⟨i, rfl, hi⟩ := shape.isWide_eq_false_or
  · rw [h.ofBytes_narrow_iff hdepth hshape]
    refine (or_iff_left ?_).symm
    rintro ⟨i, l, rfl, hi, -⟩
    exact Bool.false_ne_true (hshape.symm.trans hi)
  · rw [h.ofBytes_wide_iff hi, fitted?_integer_iff]
    constructor
    · rintro ⟨l, hspells, hl, ht, rfl⟩
      cases hkept : l.isKept with
      | false => exact .inr ⟨i, l, rfl, hi, hspells, hl, hkept, ht, rfl⟩
      | true =>
          have hvalue := l.value?_eq_whole_iff.2 ⟨hl, hkept, rfl⟩
          obtain rfl := h.unique (hspells.means n) hdepth
          simp only [IntegerType.takes, Bool.and_eq_true, decide_eq_true_eq] at ht
          exact .inl ⟨l.whole, by rw [hvalue, Option.map_some], ht.2.1, ht.2.2, rfl⟩
    · rintro (⟨k, ho, hleast, hgreatest, rfl⟩ | ⟨j, l, hj, -, hspells, hl, -, ht, rfl⟩)
      · obtain ⟨l, hspells, hvalue⟩ := h.exists_spells ho
        obtain ⟨hl, hkept, rfl⟩ := l.value?_eq_whole_iff.1 hvalue
        exact ⟨l, hspells, hl, takes_of_isKept hkept hleast hgreatest, rfl⟩
      · cases hj
        exact ⟨l, hspells, hl, ht, rfl⟩

/-- A tree has no value for what is beyond it. -/
theorem Means.fitted?_of_takesBeyond (h : Means n t o) (hdepth : n < depthBudget)
    (hbeyond : shape.TakesBeyond t v) : shape.fitted? o = none := by
  obtain ⟨i, l, rfl, -, hspells, -, hkept, -, -⟩ := hbeyond
  obtain rfl := h.unique (hspells.means n) hdepth
  refine Option.eq_none_iff_forall_ne_some.2 fun w hw => ?_
  obtain ⟨k, hk, -⟩ := fitted?_integer_iff.1 hw
  have hvalue : l.value? = some (.whole k) := by simpa using hk
  exact Bool.false_ne_true (hkept.symm.trans (l.value?_eq_whole_iff.1 hvalue).2.1)

end Shapes

end LiveTree.Json
