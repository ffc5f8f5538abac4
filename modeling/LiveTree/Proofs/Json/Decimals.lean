import LiveTree.Proofs.Json.Settling

namespace LiveTree.Json

open Text.Utf8 (encode encode_cons encode_append)

def SettlesHere {α : Type} (r : Reader α) (t : List Char) (o : Option α) : Prop :=
  ∀ (rest : List UInt8) (passed : Nat), stopsNumber rest = true →
    Reaches rest (r ⟨encode t ++ rest, passed⟩) o

theorem utf8EncodeChar_digit (d : Fin 10) :
    String.utf8EncodeChar (Nat.digitChar d.val) = [digitByte d.val] :=
  utf8EncodeChar_digitChar d.val d.isLt

theorem encode_digitsText (ds : List (Fin 10)) :
    encode (digitsText ds) = (ds.map Fin.val).map digitByte := by
  induction ds with
  | nil => rfl
  | cons d ds ih =>
      rw [digitsText, List.map_cons, encode_cons, utf8EncodeChar_digit, ← digitsText, ih]
      rfl

theorem encode_digitsText_cons (d : Fin 10) (ds : List (Fin 10)) :
    encode (digitsText (d :: ds)) = digitByte d :: encode (digitsText ds) := by
  rw [encode_digitsText, encode_digitsText]
  rfl

theorem exists_digits_digitsText (ds : List (Fin 10)) {rest : List UInt8}
    (hrest : rest.head?.any isDigit = false) (passed : Nat) : ∃ now,
    Cursor.digits ⟨encode (digitsText ds) ++ rest, passed⟩ = (ds.map Fin.val, ⟨rest, now⟩) := by
  have hlt : ∀ d ∈ ds.map Fin.val, d < 10 := by
    intro d hd
    obtain ⟨d, -, rfl⟩ := List.mem_map.1 hd
    exact d.isLt
  obtain ⟨now, hnow⟩ := spanDigits_digits hlt hrest passed []
  exact ⟨now, by rw [encode_digitsText, Cursor.digits, hnow, List.reverse_nil, List.nil_append]⟩

def doubleOf (negative : Bool) (g : Gathered) : Option Number :=
  (Decimal.Binary64.scale g.significand g.tens).map (signed negative)

theorem reaches_finishDouble (negative : Bool) (g : Gathered) (rest : List UInt8) (now : Nat) :
    Reaches rest (finishDouble negative g ⟨rest, now⟩) (doubleOf negative g) := by
  rw [finishDouble, doubleOf]
  cases Decimal.Binary64.scale g.significand g.tens with
  | none => exact .flaw _
  | some x => exact .found _ rfl

theorem exists_reaches_finishWhole (negative : Bool) (g : Gathered) : ∃ o,
    ∀ (rest : List UInt8) (now : Nat), Reaches rest (finishWhole negative g ⟨rest, now⟩) o := by
  by_cases hfull : g.full = true
  · refine ⟨doubleOf negative g, fun rest now => ?_⟩
    rw [finishWhole, if_pos hfull]
    exact reaches_finishDouble negative g rest now
  · simp only [finishWhole, if_neg hfull]
    split
    · split
      · exact ⟨_, fun rest now => .found _ rfl⟩
      · exact ⟨_, fun rest now => .found _ rfl⟩
    · exact ⟨_, fun rest now => .found _ rfl⟩

theorem exists_settles_exponentDigits (negative : Bool) (g : Gathered) (down : Bool)
    (ds : List (Fin 10)) : ∃ o,
    SettlesHere (readExponentDigits negative g down) (digitsText ds) o := by
  cases hexponent : exponentOf (ds.map Fin.val) 0 0 with
  | mk e beyond =>
      cases beyond with
      | none =>
          let scaled : Gathered := { g with tens := if down then g.tens - e else g.tens + e }
          refine ⟨doubleOf negative scaled, fun rest passed hrest => ?_⟩
          obtain ⟨now, hdigits⟩ := exists_digits_digitsText ds (any_isDigit_of_stops hrest) passed
          simp only [readExponentDigits, hdigits, hexponent]
          exact reaches_finishDouble negative _ rest now
      | some count =>
          by_cases hbeyond : (g.significand ≠ 0 && !down) = true
          · refine ⟨none, fun rest passed hrest => ?_⟩
            obtain ⟨now, hdigits⟩ := exists_digits_digitsText ds (any_isDigit_of_stops hrest) passed
            simp only [readExponentDigits, hdigits, hexponent, if_pos hbeyond]
            exact .flaw _
          · refine ⟨some (signed negative (Decimal.Binary64.ofNat 0)), fun rest passed hrest => ?_⟩
            obtain ⟨now, hdigits⟩ := exists_digits_digitsText ds (any_isDigit_of_stops hrest) passed
            simp only [readExponentDigits, hdigits, hexponent, if_neg hbeyond]
            exact .found _ rfl

theorem digitByte_ne_sign : ∀ d < 10, digitByte d ≠ 0x2B ∧ digitByte d ≠ 0x2D := by
  decide

theorem exists_settles_exponent (negative : Bool) (g : Gathered) (e : Exponent) : ∃ o,
    SettlesHere (readExponent negative g) (e.signText ++ digitsText (e.first :: e.more)) o := by
  have hhead := encode_digitsText_cons e.first e.more
  have hdigit := isDigit_digitByte e.first e.first.isLt
  obtain ⟨hplus, hminus⟩ := digitByte_ne_sign e.first e.first.isLt
  cases hdown : e.down with
  | none =>
      obtain ⟨o, ho⟩ := exists_settles_exponentDigits negative g false (e.first :: e.more)
      refine ⟨o, fun rest passed hrest => ?_⟩
      have hreach := ho rest passed hrest
      rw [hhead, List.cons_append] at hreach
      rw [Exponent.signText, hdown, List.nil_append, hhead, List.cons_append]
      simpa [readExponent, byte?_cons, hplus, hminus, hdigit] using hreach
  | some down =>
      obtain ⟨o, ho⟩ := exists_settles_exponentDigits negative g down (e.first :: e.more)
      refine ⟨o, fun rest passed hrest => ?_⟩
      have hreach := ho rest (passed + 1) hrest
      have hencode : encode (e.signText ++ digitsText (e.first :: e.more)) ++ rest =
          (if down then 0x2D else 0x2B) ::
            (digitByte e.first :: (encode (digitsText e.more) ++ rest)) := by
        rw [Exponent.signText, hdown, encode_append, hhead]
        cases down <;> rfl
      rw [hhead, List.cons_append] at hreach
      rw [hencode]
      cases down <;> simpa [readExponent, byte?_cons, next_cons, hdigit] using hreach

theorem encode_exponent (e : Exponent) : ∃ b, isExponentLetter b = true ∧
    encode e.text = b :: encode (e.signText ++ digitsText (e.first :: e.more)) := by
  rw [Exponent.text, encode_cons]
  cases e.capital with
  | true => exact ⟨0x45, rfl, rfl⟩
  | false => exact ⟨0x65, rfl, rfl⟩

theorem ne_of_isExponentLetter {b : UInt8} (h : isExponentLetter b = true) :
    isDigit b = false ∧ b ≠ 0x2E := by
  simp only [isExponentLetter, Bool.or_eq_true, decide_eq_true_eq] at h
  rcases h with rfl | rfl
  all_goals exact ⟨rfl, by decide⟩

theorem exists_settles_fraction (negative : Bool) (g : Gathered) (d : Fin 10) (ds : List (Fin 10))
    (exponent : Option Exponent) : ∃ o, SettlesHere (readFraction negative g)
      (digitsText (d :: ds) ++ exponent.elim [] Exponent.text) o := by
  let full := g.withFraction ((d :: ds).map Fin.val)
  cases exponent with
  | none =>
      refine ⟨doubleOf negative full, fun rest passed hrest => ?_⟩
      obtain ⟨now, hdigits⟩ :=
        exists_digits_digitsText (d :: ds) (any_isDigit_of_stops hrest) passed
      have hfinish : readFraction negative g ⟨encode (digitsText (d :: ds)) ++ rest, passed⟩ =
          finishDouble negative full ⟨rest, now⟩ := by
        rw [readFraction, hdigits, List.map_cons]
        cases rest with
        | nil => rfl
        | cons b rest =>
            obtain ⟨-, -, hletter⟩ := continuesNumber_of_stops hrest
            simp [byte?_cons, hletter, full]
      rw [Option.elim_none, List.append_nil, hfinish]
      exact reaches_finishDouble negative full rest now
  | some e =>
      obtain ⟨o, ho⟩ := exists_settles_exponent negative full e
      refine ⟨o, fun rest passed hrest => ?_⟩
      obtain ⟨b, hletter, hencode⟩ := encode_exponent e
      have hdigit : (encode e.text ++ rest).head?.any isDigit = false := by
        rw [hencode]
        exact (ne_of_isExponentLetter hletter).1
      obtain ⟨now, hdigits⟩ := exists_digits_digitsText (d :: ds) hdigit passed
      have hreach := ho rest (now + 1) hrest
      rw [Option.elim_some, encode_append, List.append_assoc, readFraction, hdigits, hencode,
        List.map_cons]
      simpa [byte?_cons, next_cons, hletter, full] using hreach

theorem any_isDigit_tailText (fraction : Option (Fin 10 × List (Fin 10)))
    (exponent : Option Exponent) {rest : List UInt8} (hrest : stopsNumber rest = true) :
    (encode (tailText fraction exponent) ++ rest).head?.any isDigit = false := by
  cases fraction with
  | some f => rfl
  | none =>
      cases exponent with
      | none => exact any_isDigit_of_stops hrest
      | some e =>
          obtain ⟨b, hletter, hencode⟩ := encode_exponent e
          rw [tailText, Option.elim_none, Option.elim_some, List.nil_append, hencode]
          exact (ne_of_isExponentLetter hletter).1

theorem exists_settles_tail (negative : Bool) (g : Gathered)
    (fraction : Option (Fin 10 × List (Fin 10))) (exponent : Option Exponent) : ∃ o,
    SettlesHere (readAfterWhole negative g) (tailText fraction exponent) o := by
  cases fraction with
  | some f =>
      obtain ⟨o, ho⟩ := exists_settles_fraction negative g f.1 f.2 exponent
      exact ⟨o, fun rest passed hrest => ho rest (passed + 1) hrest⟩
  | none =>
      cases exponent with
      | none =>
          obtain ⟨o, ho⟩ := exists_reaches_finishWhole negative g
          refine ⟨o, fun rest passed hrest => ?_⟩
          have hfinish := readAfterWhole_of_stops hrest negative g passed
          exact hfinish ▸ ho rest passed
      | some e =>
          obtain ⟨o, ho⟩ := exists_settles_exponent negative g e
          refine ⟨o, fun rest passed hrest => ?_⟩
          obtain ⟨b, hletter, hencode⟩ := encode_exponent e
          obtain ⟨-, hpoint⟩ := ne_of_isExponentLetter hletter
          have hreach := ho rest (passed + 1) hrest
          rw [tailText, Option.elim_none, Option.elim_some, List.nil_append, hencode]
          simpa [readAfterWhole, byte?_cons, next_cons, hpoint, hletter] using hreach

/-- The bytes of a numeral begin with a lone zero, or with a digit from which all whole digits are
read. -/
theorem digits_numeral (l : Numeral) {rest : List UInt8} (hrest : stopsNumber rest = true)
    (passed : Nat) :
    let bytes := encode (digitsText (l.first :: l.more) ++ tailText l.fraction l.exponent) ++ rest
    let behind := encode (tailText l.fraction l.exponent) ++ rest
    (l.first :: l.more).map Fin.val = [0] ∧ bytes = 0x30 :: behind ∧
        behind.head?.any isDigit = false ∨
      ∃ b more now, bytes = b :: more ∧ b ≠ 0x30 ∧ isDigit b = true ∧
        Cursor.digits ⟨b :: more, passed⟩ = ((l.first :: l.more).map Fin.val, ⟨behind, now⟩) := by
  intro bytes behind
  have htail := any_isDigit_tailText l.fraction l.exponent hrest
  have hbytes : bytes = encode (digitsText (l.first :: l.more)) ++ behind := by
    simp only [bytes, behind, encode_append, List.append_assoc]
  rw [hbytes]
  by_cases hzero : l.first = 0
  · rw [hzero, l.alone hzero]
    exact .inl ⟨rfl, rfl, htail⟩
  · obtain ⟨now, hdigits⟩ := exists_digits_digitsText (l.first :: l.more) htail passed
    have hbyte : digitByte l.first ≠ 0x30 := by
      rw [Ne, digitByte_eq_zero_iff l.first l.first.isLt]
      exact fun h => hzero (Fin.ext h)
    rw [encode_digitsText_cons, List.cons_append] at hdigits ⊢
    exact .inr ⟨_, _, now, rfl, hbyte, isDigit_digitByte l.first l.first.isLt, hdigits⟩

/-- The whole digits of a numeral are read first, and what stands behind them goes on from there. -/
theorem exists_readUnsigned (l : Numeral) (negative : Bool) {rest : List UInt8}
    (hrest : stopsNumber rest = true) (passed : Nat) : ∃ now,
    readUnsigned negative
        ⟨encode (digitsText (l.first :: l.more) ++ tailText l.fraction l.exponent) ++ rest, passed⟩ =
      readAfterWhole negative (Gathered.ofWhole ((l.first :: l.more).map Fin.val))
        ⟨encode (tailText l.fraction l.exponent) ++ rest, now⟩ := by
  obtain ⟨hzero, hbytes, htail⟩ | ⟨b, more, now, hbytes, hb, hdigit, hdigits⟩ :=
    digits_numeral l hrest passed
  · refine ⟨passed + 1, ?_⟩
    rw [hbytes, hzero]
    generalize encode (tailText l.fraction l.exponent) ++ rest = behind at htail
    cases behind with
    | nil => rfl
    | cons b behind =>
        have hb : isDigit b = false := htail
        have hgathered : Gathered.ofWhole [0] = ⟨0, 0, false⟩ := rfl
        simp [readUnsigned, byte?_cons, next_cons, hb, hgathered]
  · refine ⟨now, ?_⟩
    rw [hbytes]
    simp only [readUnsigned, byte?_cons, if_neg hb, hdigit, if_true, hdigits]

theorem exists_readNumber (l : Numeral) {rest : List UInt8} (hrest : stopsNumber rest = true)
    (passed : Nat) : ∃ now,
    readNumber ⟨encode l.text ++ rest, passed⟩ =
      readAfterWhole l.negative (Gathered.ofWhole ((l.first :: l.more).map Fin.val))
        ⟨encode (tailText l.fraction l.exponent) ++ rest, now⟩ := by
  rw [Numeral.text]
  cases hsign : l.negative with
  | true => exact exists_readUnsigned l true hrest (passed + 1)
  | false =>
      obtain ⟨now, hnow⟩ := exists_readUnsigned l false hrest passed
      refine ⟨now, hnow ▸ ?_⟩
      have hminus := (digitByte_ne_sign l.first l.first.isLt).2
      rw [if_neg Bool.false_ne_true, List.nil_append, encode_append,
        encode_digitsText_cons l.first l.more, readNumber, if_neg]
      simp [byte?_cons, hminus]

theorem exists_settles_number (l : Numeral) : ∃ o, SettlesHere readNumber l.text o := by
  let whole := Gathered.ofWhole ((l.first :: l.more).map Fin.val)
  obtain ⟨o, ho⟩ := exists_settles_tail l.negative whole l.fraction l.exponent
  refine ⟨o, fun rest passed hrest => ?_⟩
  obtain ⟨now, hnow⟩ := exists_readNumber l hrest passed
  exact hnow ▸ ho rest now hrest

theorem settles_number (l : Numeral) : SettlesHere readNumber l.text l.value? := by
  obtain ⟨o, ho⟩ := exists_settles_number l
  have halone := ho [] 0 rfl
  rw [List.append_nil] at halone
  have hvalue : l.value? = o := by
    rw [Numeral.value?, Cursor.start]
    generalize readNumber ⟨encode l.text, 0⟩ = res at halone ⊢
    cases halone <;> rfl
  rw [hvalue]
  exact ho

end LiveTree.Json
