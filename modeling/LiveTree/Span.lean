namespace LiveTree

def nanosPerSecond : Nat := 1000000000

def secondsLimit : Nat := 0x10000000000000000

structure Span where
  nanos : Nat
  lt_limit : nanos < secondsLimit * nanosPerSecond
  deriving DecidableEq

namespace Span

def longest : Span :=
  ⟨secondsLimit * nanosPerSecond - 1, by decide⟩

def ofNanos (n : Nat) : Span :=
  if h : n < secondsLimit * nanosPerSecond then ⟨n, h⟩ else longest

def ofParts (seconds nanos : Nat) : Span :=
  ofNanos (seconds * nanosPerSecond + nanos)

def ofMillis (n : Nat) : Span :=
  ofNanos (n * 1000000)

def zero : Span :=
  ⟨0, by decide⟩

def seconds (d : Span) : Nat :=
  d.nanos / nanosPerSecond

def subsecond (d : Span) : Nat :=
  d.nanos % nanosPerSecond

instance : Inhabited Span := ⟨zero⟩

def digitsPadded : Nat → Nat → List Char
  | 0, _ => []
  | places + 1, n => digitsPadded places (n / 10) ++ [Nat.digitChar (n % 10)]

/-- A point and the digits of a fraction of a unit of `10 ^ places` parts, without trailing zeros;
nothing for a whole number of units. -/
def fractionText (places part : Nat) : List Char :=
  if part = 0 then []
  else '.' :: ((digitsPadded places part).reverse.dropWhile (· = '0')).reverse

def unitText (places n : Nat) (unit : String) : List Char :=
  let whole := Nat.pow 10 places
  Nat.toDigits 10 (n / whole) ++ fractionText places (n % whole) ++ unit.toList

def text (nanos : Nat) : String :=
  String.ofList <|
    if nanos ≥ 1000000000 then unitText 9 nanos "s"
    else if nanos ≥ 1000000 then unitText 6 nanos "ms"
    else if nanos ≥ 1000 then unitText 3 nanos "µs"
    else unitText 0 nanos "ns"

def toText (d : Span) : String :=
  text d.nanos

theorem nanos_ofNanos {n : Nat} (h : n < secondsLimit * nanosPerSecond) :
    (ofNanos n).nanos = n := by
  rw [ofNanos, dif_pos h]

end Span

end LiveTree
