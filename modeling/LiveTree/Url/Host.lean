import LiveTree.Text.Percent
import LiveTree.Url.Address
import LiveTree.Url.Name

namespace LiveTree.Url

inductive Host where
  | name (cs : List Char)
  | ipv4 (n : Nat)
  | ipv6 (pieces : List Nat)
  | opaqueName (cs : List Char)
  deriving DecidableEq, Repr

def Host.render : Host → List Char
  | .name cs => cs
  | .ipv4 n => renderIpv4 n
  | .ipv6 pieces => '[' :: (renderIpv6 pieces ++ [']'])
  | .opaqueName cs => cs

def isControl (c : Char) : Bool :=
  c.toNat < 0x20 || c.toNat = 0x7F

def isForbiddenInHost (c : Char) : Bool :=
  c.toNat = 0 || "\t\n\r #/:<>?@[\\]^|".toList.contains c

def isForbiddenInName (c : Char) : Bool :=
  isControl c || isForbiddenInHost c || c = '%'

def parseBracketed (rest : List Char) : Except Fault Host :=
  if rest.getLast? = some ']' then (parseIpv6 rest.dropLast).map .ipv6 else .error .invalidIpv6

/-- The name in ASCII that a text stands for as the name of a machine, which may be empty. -/
def machineName? (cs : List Char) : Option (List Char) := do
  let plain ← (Text.Utf8.decode (Text.Percent.decode (Text.Utf8.encode cs))).toOption
  let name ← normalized? plain
  if name.any isForbiddenInName then none else asciiName? name

def parseHost (cs : List Char) : Except Fault Host :=
  match cs with
  | '[' :: rest => parseBracketed rest
  | cs =>
      match machineName? cs with
      | none => .error .invalidHost
      | some [] => .error .emptyHost
      | some name => if endsInNumber name then (parseIpv4 name).map .ipv4 else .ok (.name name)

def parseOpaqueHost (cs : List Char) : Except Fault Host :=
  match cs with
  | '[' :: rest => parseBracketed rest
  | cs =>
      if cs.any isForbiddenInHost then .error .invalidHostCharacter
      else .ok (.opaqueName (Text.Percent.encode (fun c => isControl c || !isAscii c) cs))

end LiveTree.Url
