import LiveTree.Proofs.Json.Spelling
import LiveTree.Text.Percent

namespace LiveTree.Json

open Text.Utf8 (encode)

section Numbers

def digitsText (ds : List (Fin 10)) : List Char :=
  ds.map fun d : Fin 10 => Nat.digitChar d.val

structure Exponent where
  capital : Bool
  down : Option Bool
  first : Fin 10
  more : List (Fin 10)

def Exponent.signText (e : Exponent) : List Char :=
  match e.down with
  | none => []
  | some down => [if down then '-' else '+']

def Exponent.text (e : Exponent) : List Char :=
  (if e.capital then 'E' else 'e') :: (e.signText ++ digitsText (e.first :: e.more))

/-- A number as it is written. No digit stands behind a leading zero, and some behind the point. -/
structure Numeral where
  negative : Bool
  first : Fin 10
  more : List (Fin 10)
  fraction : Option (Fin 10 × List (Fin 10))
  exponent : Option Exponent
  alone : first = 0 → more = []

def tailText (fraction : Option (Fin 10 × List (Fin 10))) (exponent : Option Exponent) :
    List Char :=
  fraction.elim [] (fun f => '.' :: digitsText (f.1 :: f.2)) ++ exponent.elim [] Exponent.text

def Numeral.text (l : Numeral) : List Char :=
  (if l.negative then ['-'] else []) ++
    (digitsText (l.first :: l.more) ++ tailText l.fraction l.exponent)

def Numeral.value? (l : Numeral) : Option Number :=
  (readNumber (Cursor.start (encode l.text))).toOption.map Prod.fst

end Numbers

section Texts

structure HexDigit where
  value : Fin 16
  capital : Bool

def HexDigit.char (d : HexDigit) : Char :=
  if d.capital then Text.Percent.upperDigit d.value else Nat.digitChar d.value

def shortEscapes : List (Char × Char) :=
  [('"', '"'), ('\\', '\\'), ('/', '/'), ('b', '\x08'), ('f', '\x0c'), ('n', '\n'), ('r', '\r'),
    ('t', '\t')]

/-- What stands between quotes: characters, escapes of one letter, and escapes of four digits. -/
inductive Glyph where
  | plain (c : Char) (h : c ≠ '"' ∧ c ≠ '\\' ∧ 0x20 ≤ c.toNat)
  | short (letter c : Char) (h : (letter, c) ∈ shortEscapes)
  | unit (a b c d : HexDigit)

def Glyph.text : Glyph → List Char
  | .plain c _ => [c]
  | .short letter _ _ => ['\\', letter]
  | .unit a b c d => ['\\', 'u', a.char, b.char, c.char, d.char]

def unitOf (a b c d : HexDigit) : Nat :=
  ((a.value * 16 + b.value) * 16 + c.value) * 16 + d.value

/-- The characters that are written behind `lead`, the first half of a pair. -/
def writtenBehind : Option Nat → List Glyph → Option (List Char)
  | none, [] => some []
  | none, .plain c _ :: gs => (writtenBehind none gs).map (c :: ·)
  | none, .short _ c _ :: gs => (writtenBehind none gs).map (c :: ·)
  | none, .unit a b c d :: gs =>
      let n := unitOf a b c d
      if isTrail n then none
      else if isLead n then writtenBehind (some n) gs
      else (writtenBehind none gs).map (Char.ofNat n :: ·)
  | some lead, .unit a b c d :: gs =>
      let n := unitOf a b c d
      if isTrail n then (writtenBehind none gs).map (Char.ofNat (pairPoint lead n) :: ·) else none
  | some _, _ => none

def written (gs : List Glyph) : Option String :=
  (writtenBehind none gs).map String.ofList

def quotedText (gs : List Glyph) : List Char :=
  '"' :: (gs.flatMap Glyph.text ++ ['"'])

end Texts

structure Label where
  before : List Char
  glyphs : List Glyph
  after : List Char
  white : (∀ c ∈ before, isWhite c = true) ∧ ∀ c ∈ after, isWhite c = true

def Label.key? (l : Label) : Option String :=
  written l.glyphs

def Label.text (l : Label) : List Char :=
  l.before ++ (quotedText l.glyphs ++ l.after)

def gather {α : Type} (members : List (Option String × Option α)) (out : Keyed α) :
    Option (Keyed α) :=
  members.foldlM (fun out m => do
    let key ← m.1
    let x ← m.2
    some (out.insert key x)) out

inductive MeansScalar : List Char → Option Json → Prop
  | null : MeansScalar ['n', 'u', 'l', 'l'] (some .null)
  | bool (b : Bool) : MeansScalar (render (.bool b)) (some (.bool b))
  | number (l : Numeral) : MeansScalar l.text (l.value?.map .number)
  | text (gs : List Glyph) : MeansScalar (quotedText gs) ((written gs).map .text)

/-- The texts of values nested at most so deep, in which no object repeats a key, and what they
mean, if anything. -/
inductive Means : Nat → List Char → Option Json → Prop
  | scalar (n : Nat) {t : List Char} {o : Option Json} (h : MeansScalar t o) : Means n t o
  | padded {n : Nat} {before t after : List Char} {o : Option Json}
      (hbefore : ∀ c ∈ before, isWhite c = true) (hafter : ∀ c ∈ after, isWhite c = true)
      (h : Means n t o) : Means n (before ++ (t ++ after)) o
  | list {n : Nat} {items : List (List Char × Option Json)} {gap : List Char}
      (hgap : ∀ c ∈ gap, isWhite c = true) (h : ∀ i ∈ items, Means n i.1 i.2) :
      Means (n + 1) ('[' :: partsText [] gap ']' true (items.map Prod.fst))
        ((items.mapM Prod.snd).map .list)
  | object {n : Nat} {members : List (Label × List Char × Option Json)} {gap : List Char}
      (hgap : ∀ c ∈ gap, isWhite c = true)
      (hkeys : (members.filterMap fun m => m.1.key?).Nodup)
      (h : ∀ m ∈ members, Means n m.2.1 m.2.2) :
      Means (n + 1)
        ('\x7b' :: partsText [] gap '\x7d' true (members.map fun m => m.1.text ++ ':' :: m.2.1))
        ((gather (members.map fun m => (m.1.key?, m.2.2)) []).map .object)

end LiveTree.Json
