import LiveTree.Text.Percent
import LiveTree.Text.Split

namespace LiveTree.Text.Form

def isRaw (c : Char) : Bool :=
  c.isAlphanum || c = '*' || c = '-' || c = '.' || c = '_'

def encodeChar (c : Char) : List Char :=
  if c = ' ' then ['+']
  else if isRaw c then [c]
  else (String.utf8EncodeChar c).flatMap Percent.triple

def encodePart (cs : List Char) : List Char :=
  cs.flatMap encodeChar

def encodePair (pair : String × String) : List Char :=
  encodePart pair.1.toList ++ '=' :: encodePart pair.2.toList

def encode (pairs : List (String × String)) : List Char :=
  List.intercalate ['&'] (pairs.map encodePair)

def plusToBlank (c : Char) : Char :=
  if c = '+' then ' ' else c

def decodePart (cs : List Char) : String :=
  String.ofList (Utf8.decodeLossy (Percent.decode (Utf8.encode (cs.map plusToBlank))))

def decodePair (cs : List Char) : String × String :=
  let name := cs.takeWhile (· ≠ '=')
  (decodePart name, decodePart (cs.drop (name.length + 1)))

def decode (cs : List Char) : List (String × String) :=
  ((splitOn '&' cs).filter (· ≠ [])).map decodePair

end LiveTree.Text.Form
