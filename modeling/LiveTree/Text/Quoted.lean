import LiveTree.Text.Concealed

namespace LiveTree.Text.Quoted

def encodeChar (c : Char) : List Char :=
  if c = '"' then ['\\', '"']
  else if c = '\\' then ['\\', '\\']
  else if c = '\t' then ['\\', 't']
  else if c = '\r' then ['\\', 'r']
  else if c = '\n' then ['\\', 'n']
  else if c.toNat = 0 then ['\\', '0']
  else if isConcealed c then '\\' :: 'u' :: '\x7b' :: (Nat.toDigits 16 c.toNat ++ ['\x7d'])
  else [c]

def encode (cs : List Char) : List Char :=
  '"' :: (cs.flatMap encodeChar ++ ['"'])

def ofString (s : String) : String :=
  String.ofList (encode s.toList)

end LiveTree.Text.Quoted
