import LiveTree.Decimal.Layout
import LiveTree.Json.Basic

namespace LiveTree.Json

/-- Positional up to sixteen digits before the point and from the fifth place after it. -/
def numberLayout : Decimal.Layout :=
  ⟨-5, 15⟩

def Number.render : Number → List Char
  | .whole n => if n < 0 then '-' :: Nat.toDigits 10 n.natAbs else Nat.toDigits 10 n.natAbs
  | .double x => x.layOut numberLayout

def escape (c : Char) : List Char :=
  if c = '"' then ['\\', '"']
  else if c = '\\' then ['\\', '\\']
  else if c = '\n' then ['\\', 'n']
  else if c = '\r' then ['\\', 'r']
  else if c = '\t' then ['\\', 't']
  else if c.toNat = 8 then ['\\', 'b']
  else if c.toNat = 12 then ['\\', 'f']
  else if c.toNat < 0x20 then
    ['\\', 'u', '0', '0', Nat.digitChar (c.toNat / 16), Nat.digitChar (c.toNat % 16)]
  else [c]

def renderText (s : String) : List Char :=
  '"' :: (s.toList.flatMap escape ++ ['"'])

mutual
def render : Json → List Char
  | .null => ['n', 'u', 'l', 'l']
  | .bool true => ['t', 'r', 'u', 'e']
  | .bool false => ['f', 'a', 'l', 's', 'e']
  | .number n => n.render
  | .text s => renderText s
  | .list [] => ['[', ']']
  | .list (x :: xs) => '[' :: (render x ++ renderItems xs)
  | .object [] => ['\x7b', '\x7d']
  | .object ((k, x) :: xs) => '\x7b' :: (renderText k ++ ':' :: (render x ++ renderMembers xs))

def renderItems : List Json → List Char
  | [] => [']']
  | x :: xs => ',' :: (render x ++ renderItems xs)

def renderMembers : List (String × Json) → List Char
  | [] => ['\x7d']
  | (k, x) :: xs => ',' :: (renderText k ++ ':' :: (render x ++ renderMembers xs))
end

def lineAt (depth : Nat) : List Char :=
  '\n' :: List.replicate (2 * depth) ' '

mutual
def renderPretty (depth : Nat) : Json → List Char
  | .list (x :: xs) =>
      '[' :: (lineAt (depth + 1) ++ (renderPretty (depth + 1) x ++ prettyItems depth xs))
  | .object ((k, x) :: xs) =>
      '\x7b' :: (lineAt (depth + 1) ++ (renderText k ++ ':' :: ' ' ::
        (renderPretty (depth + 1) x ++ prettyMembers depth xs)))
  | .list [] => ['[', ']']
  | .object [] => ['\x7b', '\x7d']
  | .null => ['n', 'u', 'l', 'l']
  | .bool true => ['t', 'r', 'u', 'e']
  | .bool false => ['f', 'a', 'l', 's', 'e']
  | .number n => n.render
  | .text s => renderText s

def prettyItems (depth : Nat) : List Json → List Char
  | [] => lineAt depth ++ [']']
  | x :: xs => ',' :: (lineAt (depth + 1) ++ (renderPretty (depth + 1) x ++ prettyItems depth xs))

def prettyMembers (depth : Nat) : List (String × Json) → List Char
  | [] => lineAt depth ++ ['\x7d']
  | (k, x) :: xs =>
      ',' :: (lineAt (depth + 1) ++ (renderText k ++ ':' :: ' ' ::
        (renderPretty (depth + 1) x ++ prettyMembers depth xs)))
end

def compact (j : Json) : String :=
  String.ofList j.render

def pretty (j : Json) : String :=
  String.ofList (j.renderPretty 0)

end LiveTree.Json
