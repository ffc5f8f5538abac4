namespace LiveTree.Text.Punycode

def digitValue? (c : Char) : Option Nat :=
  if 'a' ≤ c ∧ c ≤ 'z' then some (c.toNat - 0x61)
  else if '0' ≤ c ∧ c ≤ '9' then some (c.toNat - 0x30 + 26)
  else none

def threshold (bias k : Nat) : Nat :=
  if k ≤ bias then 1 else if bias + 26 ≤ k then 26 else k - bias

theorem threshold_pos (bias k : Nat) : 0 < threshold bias k := by
  simp only [threshold]
  split
  · decide
  · split <;> omega

def numberLimit : Nat := 0x100000000

def readNumber (bias : Nat) : Nat → Nat → Nat → List Char → Option (Nat × List Char)
  | _, _, _, [] => none
  | k, weight, sum, c :: cs =>
      match digitValue? c with
      | none => none
      | some d =>
          let sum := sum + d * weight
          let next := weight * (36 - threshold bias k)
          if numberLimit ≤ sum then none
          else if d < threshold bias k then some (sum, cs)
          else if numberLimit ≤ next then none
          else readNumber bias (k + 36) next sum cs

def reduce (n k : Nat) : Nat :=
  if 455 < n then reduce (n / 35) (k + 36) else k + 36 * n / (n + 38)
termination_by n
decreasing_by exact Nat.div_lt_self (by omega) (by decide)

/-- The bias behind a number, of which the first is scaled down more than the others. -/
def adapt (number length : Nat) (first : Bool) : Nat :=
  let n := number / (if first then 700 else 2)
  reduce (n + n / length) 0

structure Progress where
  text : List Char
  point : Nat
  place : Nat
  bias : Nat

def Progress.start (basic : List Char) : Progress :=
  ⟨basic, 0x80, 0, 72⟩

def Progress.insert? (p : Progress) (sum : Nat) : Option Progress :=
  let length := p.text.length + 1
  let point := p.point + sum / length
  let place := sum % length
  if point.isValidChar then
    some ⟨p.text.insertIdx place (Char.ofNat point), point, place + 1,
      adapt (sum - p.place) length (p.place = 0)⟩
  else none

def decodeFrom : Nat → Progress → List Char → Option (List Char)
  | _, p, [] => some p.text
  | 0, _, _ :: _ => none
  | fuel + 1, p, cs =>
      match readNumber p.bias 36 1 p.place cs with
      | none => none
      | some (sum, rest) =>
          match p.insert? sum with
          | none => none
          | some p => decodeFrom fuel p rest

/-- The characters before the last hyphen, and those behind it. A hyphen in front separates
nothing. -/
def splitBasic (cs : List Char) : List Char × List Char :=
  let behind := (cs.reverse.takeWhile (· ≠ '-')).reverse
  let before := cs.take (cs.length - behind.length - 1)
  if before = [] then ([], cs) else (before, behind)

def decode? (cs : List Char) : Option (List Char) :=
  let (basic, rest) := splitBasic cs
  decodeFrom rest.length (Progress.start basic) rest

def digit (d : Nat) : Char :=
  Char.ofNat (if d < 26 then 0x61 + d else 0x30 + (d - 26))

def writeNumber (bias k n : Nat) : List Char :=
  let t := threshold bias k
  if n < t then [digit n]
  else digit (t + (n - t) % (36 - t)) :: writeNumber bias (k + 36) ((n - t) / (36 - t))
termination_by n
decreasing_by
  have hpos := threshold_pos bias k
  exact Nat.lt_of_le_of_lt (Nat.div_le_self ..) (by omega)

/-- The digits so far, the next number, the code point up to which it counts, and how many characters
are written. -/
structure Writing where
  text : List Char
  number : Nat
  point : Nat
  count : Nat
  bias : Nat
  isFirst : Bool

namespace Writing

def start (count : Nat) : Writing :=
  ⟨[], 0, 0x80, count, 72, true⟩

def advance (w : Writing) (m : Nat) : Writing :=
  { w with number := w.number + (m - w.point) * (w.count + 1), point := m }

def pass (w : Writing) (c : Char) : Writing :=
  if c.toNat < w.point then { w with number := w.number + 1 }
  else if c.toNat = w.point then
    { w with
      text := w.text ++ writeNumber w.bias 36 w.number
      number := 0
      count := w.count + 1
      bias := adapt w.number (w.count + 1) w.isFirst
      isFirst := false }
  else w

/-- Writes a text, the least code points first. Each pass writes a character at least, which bounds
their count. -/
def run (cs : List Char) : Nat → Writing → Writing
  | 0, w => w
  | fuel + 1, w =>
      match ((cs.map Char.toNat).filter (w.point ≤ ·)).min? with
      | none => w
      | some m =>
          let w := cs.foldl pass (w.advance m)
          run cs fuel { w with number := w.number + 1, point := m + 1 }

end Writing

def encode (cs : List Char) : List Char :=
  let basic := cs.filter (·.toNat < 0x80)
  let written := (Writing.run cs cs.length (Writing.start basic.length)).text
  if basic = [] then written else basic ++ '-' :: written

end LiveTree.Text.Punycode
