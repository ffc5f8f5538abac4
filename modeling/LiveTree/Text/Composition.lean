import LiveTree.Text.CombiningClass
import LiveTree.Text.Pair

namespace LiveTree.Text

/-- Hangul syllables stand in the order of their first, second and third letter; the third may be
missing, and counts as one letter more. -/
def firstSyllable : Nat := 0xAC00

def syllableCount : Nat := 11172

def firstLead : Nat := 0x1100

def leadCount : Nat := 19

def firstVowel : Nat := 0x1161

def vowelCount : Nat := 21

def noTail : Nat := 0x11A7

def tailCount : Nat := 28

def splitSyllable (n : Nat) : Char × Char :=
  let i := n - firstSyllable
  if i % tailCount = 0 then
    (Char.ofNat (firstLead + i / (vowelCount * tailCount)),
      Char.ofNat (firstVowel + i / tailCount % vowelCount))
  else (Char.ofNat (n - i % tailCount), Char.ofNat (noTail + i % tailCount))

def joinSyllable? (a b : Nat) : Option Char :=
  if firstLead ≤ a ∧ a < firstLead + leadCount ∧ firstVowel ≤ b ∧ b < firstVowel + vowelCount then
    some (Char.ofNat
      (firstSyllable + ((a - firstLead) * vowelCount + (b - firstVowel)) * tailCount))
  else if firstSyllable ≤ a ∧ a < firstSyllable + syllableCount
      ∧ (a - firstSyllable) % tailCount = 0 ∧ noTail < b ∧ b < noTail + tailCount then
    some (Char.ofNat (a + (b - noTail)))
  else none

def splitChar? (c : Char) : Option (Char × Char) :=
  let n := c.toNat
  if firstSyllable ≤ n ∧ n < firstSyllable + syllableCount then some (splitSyllable n)
  else pairTable.findSome? fun ps =>
    (ps.find? (·.1 = n)).map fun p => (Char.ofNat p.2.1, Char.ofNat p.2.2)

def joinChars? (a b : Char) : Option Char :=
  match joinSyllable? a.toNat b.toNat with
  | some c => some c
  | none => pairTable.findSome? fun ps =>
      (ps.find? fun p => p.2.1 = a.toNat && p.2.2 = b.toNat).map fun p => Char.ofNat p.1

def mostSplits : Nat := 3

def partsOf : Nat → Char → List Char
  | 0, c => [c]
  | splits + 1, c =>
      match splitChar? c with
      | some (a, b) => partsOf splits a ++ [b]
      | none => [c]

def placeMark (c : Char) : List Char → List Char
  | [] => [c]
  | d :: text =>
      if 0 < combiningClass c ∧ combiningClass c < combiningClass d then d :: placeMark c text
      else c :: d :: text

def arranged (cs : List Char) : List Char :=
  (cs.foldl (fun text c => placeMark c text) []).reverse

/-- A text being put together: what is done, in reverse, and the last letter with the marks that it
did not take in, in reverse. -/
structure Composing where
  done : List Char
  letter : Option Char
  marks : List Char

namespace Composing

def start : Composing :=
  ⟨[], none, []⟩

def reversed (s : Composing) : List Char :=
  s.marks ++ (s.letter.toList ++ s.done)

/-- Whether a character reaches the letter: no mark in between has its class or a higher one. -/
def reaches (s : Composing) (c : Char) : Bool :=
  s.marks.head?.all fun m => combiningClass m < combiningClass c

def push (s : Composing) (c : Char) : Composing :=
  match (if s.reaches c then s.letter >>= fun a => joinChars? a c else none) with
  | some joined => { s with letter := some joined }
  | none =>
      if combiningClass c = 0 then ⟨s.reversed, some c, []⟩
      else { s with marks := c :: s.marks }

end Composing

def composed (cs : List Char) : List Char :=
  let parts := arranged (cs.flatMap (partsOf mostSplits))
  (parts.foldl Composing.push Composing.start).reversed.reverse

def isComposed (cs : List Char) : Bool :=
  composed cs = cs

end LiveTree.Text
