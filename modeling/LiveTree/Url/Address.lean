import LiveTree.Text.Split
import LiveTree.Url.Fault

namespace LiveTree.Url

def digitIn? (base : Nat) (c : Char) : Option Nat :=
  let n := c.toNat
  let value :=
    if 0x30 ≤ n && n ≤ 0x39 then n - 0x30
    else if 0x41 ≤ n && n ≤ 0x46 then n - 0x37
    else if 0x61 ≤ n && n ≤ 0x66 then n - 0x57
    else base
  if value < base then some value else none

def numberIn? (base : Nat) (cs : List Char) : Option Nat :=
  cs.foldlM (fun n c => (digitIn? base c).map (n * base + ·)) 0

/-- One number of an IPv4 address: hexadecimal after `0x`, octal after `0`, and else decimal. -/
def ipv4Number? : List Char → Option Nat
  | [] => none
  | '0' :: 'x' :: cs => numberIn? 16 cs
  | '0' :: 'X' :: cs => numberIn? 16 cs
  | '0' :: c :: cs => numberIn? 8 (c :: cs)
  | cs => numberIn? 10 cs

def hostParts (host : List Char) : List (List Char) :=
  let parts := Text.splitOn '.' host
  if parts.getLast? = some [] then parts.dropLast else parts

def endsInNumber (host : List Char) : Bool :=
  match (hostParts host).getLast? with
  | none => false
  | some last => (last ≠ [] && last.all Char.isDigit) || (ipv4Number? last).isSome

/-- Up to four numbers, each but the last below 256; the last fills the bytes that remain. -/
def ipv4OfNumbers? (numbers : List Nat) : Option Nat :=
  match numbers.reverse with
  | [] => none
  | last :: before =>
      let room := Nat.pow 256 (4 - before.length)
      if 3 < before.length || before.any (255 < ·) || room ≤ last then none
      else some (before.reverse.foldl (fun n part => n * 256 + part) 0 * room + last)

def parseIpv4 (host : List Char) : Except Fault Nat :=
  match (hostParts host).mapM ipv4Number? >>= ipv4OfNumbers? with
  | some n => .ok n
  | none => .error .invalidIpv4

def decimal (n : Nat) : List Char :=
  Nat.toDigits 10 n

def renderIpv4 (n : Nat) : List Char :=
  decimal (n / 0x1000000 % 256) ++ '.' :: (decimal (n / 0x10000 % 256)
    ++ '.' :: (decimal (n / 256 % 256) ++ '.' :: decimal (n % 256)))

def octet? (cs : List Char) : Option Nat :=
  match cs with
  | [] => none
  | '0' :: _ :: _ => none
  | cs => (numberIn? 10 cs).filter (· < 256)

def dottedPieces? (cs : List Char) : Option (List Nat) :=
  match (Text.splitOn '.' cs).mapM octet? with
  | some [a, b, c, d] => some [a * 256 + b, c * 256 + d]
  | _ => none

/-- The pieces of an IPv6 address in reverse, and the place of the `::` among them. -/
structure Ipv6Scan where
  pieces : List Nat
  gap : Option Nat

def Ipv6Scan.push (s : Ipv6Scan) (piece : Nat) : Ipv6Scan :=
  ⟨piece :: s.pieces, s.gap⟩

def Ipv6Scan.openGap (s : Ipv6Scan) : Ipv6Scan :=
  ⟨0 :: s.pieces, some (s.pieces.length + 1)⟩

/-- Pieces of up to four hexadecimal digits with colons between; the fuel is the text's length. -/
def scanIpv6 : Nat → List Char → Ipv6Scan → Option Ipv6Scan
  | _, [], s => some s
  | 0, _ :: _, _ => none
  | fuel + 1, c :: cs, s =>
      if s.pieces.length = 8 then none
      else if c = ':' then if s.gap.isSome then none else scanIpv6 fuel cs s.openGap
      else
        let text := c :: cs
        let digits := (text.take 4).takeWhile fun d => (digitIn? 16 d).isSome
        let value := (numberIn? 16 digits).getD 0
        match text.drop digits.length with
        | [] => some (s.push value)
        | ':' :: rest => if rest = [] then none else scanIpv6 fuel rest (s.push value)
        | '.' :: _ =>
            if digits = [] || 6 < s.pieces.length then none
            else (dottedPieces? text).map fun two => two.foldl Ipv6Scan.push s
        | _ => none

def Ipv6Scan.fill (s : Ipv6Scan) : Option (List Nat) :=
  let pieces := s.pieces.reverse
  match s.gap with
  | some k => some (pieces.take k ++ List.replicate (8 - pieces.length) 0 ++ pieces.drop k)
  | none => if pieces.length = 8 then some pieces else none

def parseIpv6 (cs : List Char) : Except Fault (List Nat) :=
  let scanned := match cs with
    | ':' :: ':' :: rest => scanIpv6 rest.length rest (Ipv6Scan.openGap ⟨[], none⟩)
    | ':' :: _ => none
    | [] => none
    | [_] => none
    | cs => scanIpv6 cs.length cs ⟨[], none⟩
  match scanned >>= Ipv6Scan.fill with
  | some pieces => .ok pieces
  | none => .error .invalidIpv6

def zeroRun (pieces : List Nat) : Nat :=
  (pieces.takeWhile (· = 0)).length

def longestRun : List Nat → Nat → Nat × Nat
  | [], index => (index, 0)
  | p :: ps, index =>
      let later := longestRun ps (index + 1)
      let here := zeroRun (p :: ps)
      if later.2 ≤ here then (index, here) else later

def pieceText (p : Nat) : List Char :=
  Nat.toDigits 16 p

def joinPieces (pieces : List Nat) : List Char :=
  List.intercalate [':'] (pieces.map pieceText)

def renderIpv6 (pieces : List Nat) : List Char :=
  let (start, length) := longestRun pieces 0
  if length < 2 then joinPieces pieces
  else joinPieces (pieces.take start) ++ ':' :: ':' :: joinPieces (pieces.drop (start + length))

end LiveTree.Url
