namespace LiveTree.Text.Base64

def alphabet : List Char :=
  "ABCDEFGHIJKLMNOPQRSTUVWXYZabcdefghijklmnopqrstuvwxyz0123456789+/".toList

def letter (n : Nat) : Char :=
  (alphabet[n % 64]?).getD 'A'

def letters (n : Nat) : List Char :=
  [letter (n / 262144), letter (n / 4096), letter (n / 64), letter n]

def encode : List UInt8 → List Char
  | [] => []
  | [a] => (letters (a.toNat * 65536)).take 2 ++ ['=', '=']
  | [a, b] => (letters (a.toNat * 65536 + b.toNat * 256)).take 3 ++ ['=']
  | a :: b :: c :: rest => letters (a.toNat * 65536 + b.toNat * 256 + c.toNat) ++ encode rest

end LiveTree.Text.Base64
