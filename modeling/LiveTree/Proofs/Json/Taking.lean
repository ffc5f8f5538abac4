import LiveTree.Json.Shape
import LiveTree.Proofs.Text.Utf8

namespace LiveTree.Json

open Text.Utf8 (encode encode_cons encode_append)

variable {α : Type}

def continuesNumber (b : UInt8) : Bool :=
  isDigit b || b = 0x2E || isExponentLetter b

def stopsNumber (rest : List UInt8) : Bool :=
  !rest.head?.any continuesNumber

def Takes (r : Reader α) (text : List Char) (x : α) : Prop :=
  ∀ (rest : List UInt8) (passed : Nat), stopsNumber rest = true →
    ∃ now, r ⟨encode text ++ rest, passed⟩ = .ok (x, ⟨rest, now⟩)

theorem Takes.readWhole {reader : Nat → Reader α} {text : List Char} {x : α}
    (h : Takes (reader (fuelFor (encode text))) text x) : readWhole reader (encode text) = .ok x := by
  obtain ⟨now, hnow⟩ := h [] 0 rfl
  rw [List.append_nil] at hnow
  rw [Json.readWhole, Cursor.start, hnow]
  rfl

theorem continuesNumber_of_stops {b : UInt8} {rest : List UInt8}
    (h : stopsNumber (b :: rest) = true) :
    isDigit b = false ∧ b ≠ 0x2E ∧ isExponentLetter b = false := by
  simpa [stopsNumber, continuesNumber, and_assoc] using h

theorem byte?_cons (b : UInt8) (rest : List UInt8) (passed : Nat) :
    Cursor.byte? ⟨b :: rest, passed⟩ = some b := rfl

theorem next_cons (b : UInt8) (rest : List UInt8) (passed : Nat) :
    Cursor.next ⟨b :: rest, passed⟩ = ⟨rest, passed + 1⟩ := rfl

/-- A blank that stands between the parts of a value in a text laid out over lines. -/
def isGap (c : Char) : Bool :=
  c = ' ' || c = '\n'

theorem skipBlanks_of_not {b : UInt8} (h : Cursor.isBlank b = false) (rest : List UInt8)
    (passed : Nat) : Cursor.skipBlanks ⟨b :: rest, passed⟩ = ⟨b :: rest, passed⟩ := by
  simp [Cursor.skipBlanks, Cursor.skipBlanksFrom, h]

section Blanks

def isWhite (c : Char) : Bool :=
  c = ' ' || c = '\n' || c = '\t' || c = '\r'

theorem white_of_gap {gap : List Char} (h : ∀ c ∈ gap, isGap c = true) :
    ∀ c ∈ gap, isWhite c = true := by
  intro c hc
  have hgap : (decide (c = ' ') || decide (c = '\n')) = true := h c hc
  rw [isWhite, hgap]
  rfl

def behindBlanks (bytes : List UInt8) : List UInt8 :=
  bytes.dropWhile Cursor.isBlank

def Cursor.At (c : Cursor) (bytes : List UInt8) : Prop :=
  behindBlanks c.rest = behindBlanks bytes

theorem rest_skipBlanks (c : Cursor) : c.skipBlanks.rest = behindBlanks c.rest := by
  obtain ⟨bytes, passed⟩ := c
  rw [Cursor.skipBlanks]
  induction bytes generalizing passed with
  | nil => rfl
  | cons b bytes ih =>
      rw [Cursor.skipBlanksFrom, behindBlanks, List.dropWhile_cons]
      split
      · exact ih (passed + 1)
      · rfl

theorem isBlank_of_isWhite {c : Char} (h : isWhite c = true) :
    ∃ b, String.utf8EncodeChar c = [b] ∧ Cursor.isBlank b = true := by
  simp only [isWhite, Bool.or_eq_true, decide_eq_true_eq] at h
  rcases h with ((rfl | rfl) | rfl) | rfl
  all_goals exact ⟨_, rfl, rfl⟩

theorem behindBlanks_white {gap : List Char} (h : ∀ c ∈ gap, isWhite c = true)
    (bytes : List UInt8) : behindBlanks (encode gap ++ bytes) = behindBlanks bytes := by
  induction gap with
  | nil => rfl
  | cons c gap ih =>
      obtain ⟨hc, hgap⟩ := List.forall_mem_cons.1 h
      obtain ⟨b, hbyte, hblank⟩ := isBlank_of_isWhite hc
      rw [encode_cons, hbyte, List.append_assoc, List.singleton_append, behindBlanks,
        List.dropWhile_cons_of_pos hblank]
      exact ih hgap

theorem behindBlanks_cons {b : UInt8} (h : Cursor.isBlank b = false) (bytes : List UInt8) :
    behindBlanks (b :: bytes) = b :: bytes :=
  List.dropWhile_cons_of_neg (by simp [h])

theorem stopsNumber_white {gap : List Char} (h : ∀ c ∈ gap, isWhite c = true)
    {rest : List UInt8} (hrest : stopsNumber rest = true) :
    stopsNumber (encode gap ++ rest) = true := by
  cases gap with
  | nil => exact hrest
  | cons c gap =>
      have hc := h c (List.mem_cons_self ..)
      simp only [isWhite, Bool.or_eq_true, decide_eq_true_eq] at hc
      rcases hc with ((rfl | rfl) | rfl) | rfl
      all_goals rfl

end Blanks

section Cursors

variable {c : Cursor} {bytes : List UInt8} {b : UInt8}

theorem Cursor.at_mk (bytes : List UInt8) (passed : Nat) : Cursor.At ⟨bytes, passed⟩ bytes :=
  rfl

theorem Cursor.At.white {gap : List Char} (h : ∀ c ∈ gap, isWhite c = true)
    (hc : c.At (encode gap ++ bytes)) : c.At bytes :=
  hc.trans (behindBlanks_white h bytes)

theorem Cursor.At.skipBlanks (hb : Cursor.isBlank b = false) (hc : c.At (b :: bytes)) : ∃ now,
    c.skipBlanks = ⟨b :: bytes, now⟩ := by
  refine ⟨c.skipBlanks.passed, ?_⟩
  have hrest : c.skipBlanks.rest = b :: bytes := by
    rw [rest_skipBlanks, hc, behindBlanks_cons hb]
  rw [← hrest]

theorem firstByte_eq {b : UInt8} {bytes : List UInt8} {now : Nat}
    (hc : c.skipBlanks = ⟨b :: bytes, now⟩) : firstByte c = .ok (b, ⟨b :: bytes, now⟩) := by
  rw [firstByte, hc, byte?_cons]

end Cursors

end LiveTree.Json
