import LiveTree.Json.Cursor
import LiveTree.Text.Utf8

namespace LiveTree.Json

def hexValue? (b : UInt8) : Option Nat :=
  if 0x30 ≤ b && b ≤ 0x39 then some (b.toNat - 0x30)
  else if 0x41 ≤ b && b ≤ 0x46 then some (b.toNat - 0x37)
  else if 0x61 ≤ b && b ≤ 0x66 then some (b.toNat - 0x57)
  else none

def shortEscape? (b : UInt8) : Option UInt8 :=
  if b = 0x22 || b = 0x5C || b = 0x2F then some b
  else if b = 0x62 then some 0x08
  else if b = 0x66 then some 0x0C
  else if b = 0x6E then some 0x0A
  else if b = 0x72 then some 0x0D
  else if b = 0x74 then some 0x09
  else none

/-- The four digits after `\u`: how many have been read, their value, and whether each was one. -/
structure HexRun where
  taken : Nat
  value : Nat
  sound : Bool
  deriving DecidableEq, Repr

def HexRun.start : HexRun :=
  ⟨0, 0, true⟩

def HexRun.push (h : HexRun) (b : UInt8) : HexRun :=
  match hexValue? b with
  | some d => ⟨h.taken + 1, h.value * 16 + d, h.sound⟩
  | none => ⟨h.taken + 1, h.value * 16, false⟩

inductive TextMode where
  | plain
  | escape
  | hex (lead : Option Nat) (run : HexRun)
  | pairMark (lead : Nat)
  | pairLetter (lead : Nat)
  deriving DecidableEq, Repr

def isLead (n : Nat) : Bool :=
  0xD800 ≤ n && n ≤ 0xDBFF

def isTrail (n : Nat) : Bool :=
  0xDC00 ≤ n && n ≤ 0xDFFF

def pairPoint (lead trail : Nat) : Nat :=
  (lead - 0xD800) * 0x400 + (trail - 0xDC00) + 0x10000

def pointBytes (n : Nat) : List UInt8 :=
  String.utf8EncodeChar (Char.ofNat n)

def endHex (lead : Option Nat) (n : Nat) : Except Cause (TextMode × List UInt8) :=
  match lead with
  | none =>
      if isTrail n then .error .loneSurrogate
      else if isLead n then .ok (.pairMark n, [])
      else .ok (.plain, pointBytes n)
  | some l => if isTrail n then .ok (.plain, pointBytes (pairPoint l n)) else .error .loneSurrogate

/-- One byte inside a text, the closing quote aside: the next mode and the bytes it adds. -/
def TextMode.advance (m : TextMode) (b : UInt8) : Except Cause (TextMode × List UInt8) :=
  match m with
  | .plain =>
      if b = 0x5C then .ok (.escape, [])
      else if b < 0x20 then .error .controlCharacter
      else .ok (.plain, [b])
  | .escape =>
      if b = 0x75 then .ok (.hex none HexRun.start, [])
      else match shortEscape? b with
        | some e => .ok (.plain, [e])
        | none => .error .invalidEscape
  | .hex lead run =>
      let run := run.push b
      if run.taken < 4 then .ok (.hex lead run, [])
      else if run.sound then endHex lead run.value
      else .error .invalidEscape
  | .pairMark lead => if b = 0x5C then .ok (.pairLetter lead, []) else .error .escapeCutShort
  | .pairLetter lead =>
      if b = 0x75 then .ok (.hex (some lead) HexRun.start, []) else .error .escapeCutShort

def readTextBytes : List UInt8 → Nat → TextMode → List UInt8 → Except Flaw (List UInt8 × Cursor)
  | [], passed, _, _ => .error ⟨.endInText, passed⟩
  | b :: rest, passed, mode, out =>
      if mode = .plain && b = 0x22 then .ok (out.reverse, ⟨rest, passed + 1⟩)
      else match mode.advance b with
        | .ok (mode, more) => readTextBytes rest (passed + 1) mode (more.reverse ++ out)
        | .error cause => .error ⟨cause, passed + 1⟩

def readText : Reader String := fun c => do
  let (bytes, c) ← readTextBytes c.rest c.passed .plain []
  match Text.Utf8.decode bytes with
  | .ok cs => .ok (String.ofList cs, c)
  | .error _ => .error (c.flawHere .invalidCodePoint)

/-- The modes of passing over a text: the digits of an escape need only be digits. -/
inductive SkipMode where
  | plain
  | escape
  | hex (run : HexRun)
  deriving DecidableEq, Repr

/-- Passes over a text whose opening quote has been read. A control character is reported before
it here, and after it by `readText`. -/
def skipTextFrom : List UInt8 → Nat → SkipMode → Except Flaw Cursor
  | [], passed, _ => .error ⟨.endInText, passed⟩
  | b :: rest, passed, .plain =>
      if b = 0x22 then .ok ⟨rest, passed + 1⟩
      else if b = 0x5C then skipTextFrom rest (passed + 1) .escape
      else if b < 0x20 then .error ⟨.controlCharacter, passed⟩
      else skipTextFrom rest (passed + 1) .plain
  | b :: rest, passed, .escape =>
      if b = 0x75 then skipTextFrom rest (passed + 1) (.hex HexRun.start)
      else if (shortEscape? b).isSome then skipTextFrom rest (passed + 1) .plain
      else .error ⟨.invalidEscape, passed + 1⟩
  | b :: rest, passed, .hex run =>
      let run := run.push b
      if run.taken < 4 then skipTextFrom rest (passed + 1) (.hex run)
      else if run.sound then skipTextFrom rest (passed + 1) .plain
      else .error ⟨.invalidEscape, passed + 1⟩

end LiveTree.Json
