namespace LiveTree.Text.Utf8

/-- A character begun and not ended: the continuation bytes still owed, the bounds of the next one,
the code point so far, and the number of bytes taken. -/
structure Partial where
  owed : Nat
  low : UInt8
  high : UInt8
  point : Nat
  taken : Nat
  deriving DecidableEq, Repr

/-- One cut of a byte sequence. A flaw is `cut` when only the end of the input made it one. -/
inductive Piece where
  | char (c : Char)
  | flaw (size : Nat) (cut : Bool)
  deriving DecidableEq, Repr

inductive Opening where
  | whole (c : Char)
  | unfinished (p : Partial)
  | ill
  deriving DecidableEq, Repr

def opening (b : UInt8) : Opening :=
  if b < 0x80 then .whole (Char.ofNat b.toNat)
  else if b < 0xC2 then .ill
  else if b < 0xE0 then .unfinished ⟨1, 0x80, 0xBF, b.toNat % 0x20, 1⟩
  else if b = 0xE0 then .unfinished ⟨2, 0xA0, 0xBF, 0, 1⟩
  else if b = 0xED then .unfinished ⟨2, 0x80, 0x9F, 0xD, 1⟩
  else if b < 0xF0 then .unfinished ⟨2, 0x80, 0xBF, b.toNat % 0x10, 1⟩
  else if b = 0xF0 then .unfinished ⟨3, 0x90, 0xBF, 0, 1⟩
  else if b < 0xF4 then .unfinished ⟨3, 0x80, 0xBF, b.toNat % 8, 1⟩
  else if b = 0xF4 then .unfinished ⟨3, 0x80, 0x8F, 4, 1⟩
  else .ill

def Partial.accepts (p : Partial) (b : UInt8) : Bool :=
  p.low ≤ b && b ≤ p.high

/-- The character after one more continuation byte: finished, or owing one byte less. -/
def Partial.extend (p : Partial) (b : UInt8) : Opening :=
  let point := p.point * 0x40 + b.toNat % 0x40
  if p.owed ≤ 1 then .whole (Char.ofNat point)
  else .unfinished ⟨p.owed - 1, 0x80, 0xBF, point, p.taken + 1⟩

def settle : Opening → List Piece → Option Partial × List Piece
  | .whole c, out => (none, .char c :: out)
  | .unfinished p, out => (some p, out)
  | .ill, out => (none, .flaw 1 false :: out)

/-- One byte read, with the pieces found so far in reverse. A byte that an unfinished character
refuses ends that character as a flaw and is read again from the start. -/
def advance : Option Partial × List Piece → UInt8 → Option Partial × List Piece
  | (none, out), b => settle (opening b) out
  | (some p, out), b =>
      if p.accepts b then settle (p.extend b) out
      else settle (opening b) (.flaw p.taken false :: out)

def close : Option Partial × List Piece → List Piece
  | (none, out) => out.reverse
  | (some p, out) => (Piece.flaw p.taken true :: out).reverse

def pieces (bytes : List UInt8) : List Piece :=
  close (bytes.foldl advance (none, []))

/-- Where the first ill-formed stretch begins and how many bytes it has; no size when the input
ends inside a character. -/
structure Flaw where
  index : Nat
  size : Option Nat
  deriving DecidableEq, Repr

def collect : List Piece → Nat → List Char → Except Flaw (List Char)
  | [], _, out => .ok out.reverse
  | .char c :: rest, index, out => collect rest (index + c.utf8Size) (c :: out)
  | .flaw size ends :: _, index, _ => .error ⟨index, if ends then none else some size⟩

def decode (bytes : List UInt8) : Except Flaw (List Char) :=
  collect (pieces bytes) 0 []

def Piece.shown : Piece → Char
  | .char c => c
  | .flaw _ _ => '\uFFFD'

def decodeLossy (bytes : List UInt8) : List Char :=
  (pieces bytes).map Piece.shown

def encode (cs : List Char) : List UInt8 :=
  cs.flatMap String.utf8EncodeChar

def Flaw.message (f : Flaw) : String :=
  match f.size with
  | some n => "invalid utf-8 sequence of " ++ toString n ++ " bytes from index " ++ toString f.index
  | none => "incomplete utf-8 byte sequence from index " ++ toString f.index

theorem encode_append (cs ds : List Char) : encode (cs ++ ds) = encode cs ++ encode ds :=
  List.flatMap_append

end LiveTree.Text.Utf8
