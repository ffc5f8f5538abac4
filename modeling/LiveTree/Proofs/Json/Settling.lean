import LiveTree.Json.Shape
import LiveTree.Proofs.Json.Grammar

namespace LiveTree.Json

open Text.Utf8 (encode encode_cons encode_append)

variable {α β : Type}

/-- What a reader came to in front of the bytes `rest`: a value or a flaw. -/
inductive Reaches (rest : List UInt8) : Except Flaw (α × Cursor) → Option α → Prop
  | found (x : α) {c : Cursor} (h : c.At rest) : Reaches rest (.ok (x, c)) (some x)
  | flaw (f : Flaw) : Reaches rest (.error f) none

def Settles (r : Reader α) (t : List Char) (o : Option α) : Prop :=
  ∀ (rest : List UInt8) (c : Cursor), stopsNumber rest = true → c.At (encode t ++ rest) →
    Reaches rest (r c) o

section Runs

variable {rest behind : List UInt8}

theorem Reaches.bind {res : Except Flaw (α × Cursor)} {o : Option α} (h : Reaches behind res o)
    {next : α × Cursor → Except Flaw (β × Cursor)} {p : α → Option β}
    (hnext : ∀ x c, c.At behind → Reaches rest (next (x, c)) (p x)) :
    Reaches rest (res >>= next) (o.bind p) := by
  cases h with
  | found x hc => exact hnext x _ hc
  | flaw f => exact .flaw f

theorem Reaches.map {res : Except Flaw (α × Cursor)} {o : Option α} (h : Reaches rest res o)
    (f : α → β) : Reaches rest (res >>= fun r => .ok (f r.1, r.2)) (o.map f) := by
  cases h with
  | found x hc => exact .found (f x) hc
  | flaw e => exact .flaw e

theorem Reaches.fitted {res : Except Flaw (α × Cursor)} {o : Option α} (h : Reaches rest res o)
    (fit : α → Except Cause β) :
    Reaches rest (res >>= fun r => Json.fitted (fit r.1) r.2)
      (o.bind fun x => (fit x).toOption) := by
  refine h.bind fun x c hc => ?_
  cases fit x with
  | ok y => exact .found y hc
  | error cause => exact .flaw _

theorem Settles.padded {r : Reader α} {before t after : List Char} {o : Option α}
    (hbefore : ∀ c ∈ before, isWhite c = true) (hafter : ∀ c ∈ after, isWhite c = true)
    (h : Settles r t o) : Settles r (before ++ (t ++ after)) o := by
  intro rest c hrest hc
  rw [encode_append, List.append_assoc, encode_append, List.append_assoc] at hc
  have hreach := h _ c (stopsNumber_white hafter hrest) (hc.white hbefore)
  generalize r c = res at hreach ⊢
  cases hreach with
  | found x hc => exact .found x (hc.white hafter)
  | flaw f => exact .flaw f

theorem Settles.misfit {r : Reader α} {t : List Char} {b : UInt8} {bytes : List UInt8}
    (htext : encode t = b :: bytes) (hb : Cursor.isBlank b = false)
    (h : ∀ {c : Cursor} {behind now}, c.skipBlanks = ⟨b :: behind, now⟩ → ∃ f, r c = .error f) :
    Settles r t none := by
  intro rest c _ hc
  rw [htext, List.cons_append] at hc
  obtain ⟨now, hnow⟩ := hc.skipBlanks hb
  obtain ⟨f, hf⟩ := h hnow
  exact hf ▸ .flaw f

theorem Settles.readWhole_iff {reader : Nat → Reader α} {t : List Char} {o : Option α}
    (h : Settles (reader (fuelFor (encode t))) t o) (x : α) :
    readWhole reader (encode t) = .ok x ↔ o = some x := by
  have hreach := h [] (Cursor.start (encode t)) rfl (by rw [List.append_nil]; rfl)
  rw [readWhole]
  generalize reader (fuelFor (encode t)) (Cursor.start (encode t)) = res at hreach ⊢
  cases hreach with
  | @found y c hc =>
      have hrest : c.skipBlanks.rest = [] := (rest_skipBlanks c).trans hc
      have hend : readEnd c = .ok () := by
        rw [readEnd, hrest]
        rfl
      simp [hend]
  | flaw f => simp

end Runs

end LiveTree.Json
