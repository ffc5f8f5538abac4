import LiveTree.Proofs.Text.Utf8

namespace LiveTree.Text.Utf8

theorem utf8EncodeChar_ascii {c : Char} (h : c.toNat < 0x80) :
    String.utf8EncodeChar c = [UInt8.ofNat c.toNat] :=
  if_pos (Nat.le_of_lt_succ h)

def Partial.IsStrict (s : Option Partial × List Piece) : Prop :=
  ∀ p, s.1 = some p → 0x80 ≤ p.low

theorem isStrict_none (out : List Piece) : Partial.IsStrict (none, out) := by
  rintro p ⟨⟩

theorem isStrict_settle {o : Opening} (h : ∀ p, o = .unfinished p → 0x80 ≤ p.low)
    (out : List Piece) : Partial.IsStrict (settle o out) := by
  cases o with
  | whole c | ill => rintro p ⟨⟩
  | unfinished p =>
      rintro _ ⟨⟩
      exact h p rfl

theorem low_of_opening {b : UInt8} {p : Partial} (h : opening b = .unfinished p) :
    0x80 ≤ p.low := by
  simp only [opening] at h
  repeat' split at h
  all_goals cases h
  all_goals first | exact UInt8.le_refl _ | decide

theorem low_of_extend {q p : Partial} {b : UInt8} (h : q.extend b = .unfinished p) :
    0x80 ≤ p.low := by
  simp only [Partial.extend] at h
  split at h
  · cases h
  · cases h
    exact UInt8.le_refl _

theorem isStrict_advance (s : Option Partial × List Piece) (b : UInt8) :
    Partial.IsStrict (advance s b) := by
  obtain ⟨p, out⟩ := s
  cases p with
  | none => exact isStrict_settle (fun _ h => low_of_opening h) out
  | some p =>
      rw [advance]
      split
      · exact isStrict_settle (fun _ h => low_of_extend h) out
      · exact isStrict_settle (fun _ h => low_of_opening h) _

theorem isStrict_foldl {s : Option Partial × List Piece} (h : Partial.IsStrict s)
    (bytes : List UInt8) : Partial.IsStrict (bytes.foldl advance s) := by
  induction bytes generalizing s with
  | nil => exact h
  | cons b bytes ih => exact ih (isStrict_advance s b)

/-- The pieces so far if no further byte belongs to the character that is unfinished. -/
def interrupted : Option Partial × List Piece → List Piece
  | (none, out) => out
  | (some p, out) => .flaw p.taken false :: out

theorem advance_ascii {s : Option Partial × List Piece} (hs : Partial.IsStrict s) {b : UInt8}
    (hb : b < 0x80) : advance s b = (none, .char (Char.ofNat b.toNat) :: interrupted s) := by
  have ho : opening b = .whole (Char.ofNat b.toNat) := if_pos hb
  obtain ⟨p, out⟩ := s
  cases p with
  | none => rw [advance, ho]; rfl
  | some p =>
      have hp : p.accepts b = false := by
        have hlow := hs p rfl
        simp only [Partial.accepts, Bool.and_eq_false_imp, decide_eq_true_eq]
        intro hle
        exact absurd (UInt8.lt_of_lt_of_le hb hlow) (UInt8.not_lt.2 hle)
      simp only [advance, hp, ho]
      rfl

theorem foldl_advance_ascii {bytes : List UInt8} (h : ∀ b ∈ bytes, b < 0x80) (out : List Piece) :
    bytes.foldl advance (none, out) =
      (none, (bytes.map fun b => .char (Char.ofNat b.toNat)).reverse ++ out) := by
  induction bytes generalizing out with
  | nil => rfl
  | cons b bytes ih =>
      obtain ⟨hb, hbytes⟩ := List.forall_mem_cons.1 h
      rw [List.foldl_cons, advance_ascii (isStrict_none out) hb, ih hbytes]
      simp [interrupted]

def piecesBefore (bytes : List UInt8) : List Piece :=
  (interrupted (bytes.foldl advance (none, []))).reverse

theorem pieces_append_ascii (bytes : List UInt8) {tail : List UInt8} (hne : tail ≠ [])
    (h : ∀ b ∈ tail, b < 0x80) :
    pieces (bytes ++ tail) =
      piecesBefore bytes ++ tail.map fun b => .char (Char.ofNat b.toNat) := by
  cases tail with
  | nil => exact absurd rfl hne
  | cons b tail =>
      obtain ⟨hb, htail⟩ := List.forall_mem_cons.1 h
      have hs : Partial.IsStrict (bytes.foldl advance (none, [])) :=
        isStrict_foldl (isStrict_none []) bytes
      rw [pieces, List.foldl_append, List.foldl_cons, advance_ascii hs hb,
        foldl_advance_ascii htail, close, piecesBefore]
      simp

theorem collect_append_char (ps : List Piece) (cs : List Char) (index : Nat) (out : List Char) :
    collect (ps ++ cs.map .char) index out = (collect ps index out).map (· ++ cs) := by
  induction ps generalizing index out with
  | nil => exact collect_map_char cs index out
  | cons p ps ih =>
      cases p with
      | char c => exact ih _ _
      | flaw size cut => rfl

/-- ASCII bytes are read as they are behind whatever stands before them, and where the flaw is that
stands there does not depend on them. -/
theorem decode_append_ascii (bytes : List UInt8) {tail : List UInt8} (hne : tail ≠ [])
    (h : ∀ b ∈ tail, b < 0x80) :
    decode (bytes ++ tail) =
      (collect (piecesBefore bytes) 0 []).map (· ++ tail.map fun b => Char.ofNat b.toNat) := by
  rw [decode, pieces_append_ascii bytes hne h, ← collect_append_char, List.map_map]
  rfl

theorem mem_of_decode {b : UInt8} (hb : b < 0x80) {bytes : List UInt8} {cs : List Char}
    (h : decode (bytes ++ [b]) = .ok cs) : Char.ofNat b.toNat ∈ cs := by
  rw [decode_append_ascii bytes (by simp) (List.forall_mem_singleton.2 hb)] at h
  cases hc : collect (piecesBefore bytes) 0 [] with
  | error flaw => rw [hc] at h; exact nomatch h
  | ok before =>
      rw [hc] at h
      obtain rfl := Except.ok.inj h
      exact List.mem_append_right before (List.mem_singleton_self _)

end LiveTree.Text.Utf8
