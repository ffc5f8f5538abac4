import LiveTree.Url.Basic

namespace LiveTree.Url

inductive SchemeKind where
  | special
  | file
  | other
  deriving DecidableEq, Repr

def specialSchemes : List (String × Nat) :=
  [("http", 80), ("https", 443), ("ws", 80), ("wss", 443), ("ftp", 21)]

def defaultNumber? (scheme : List Char) : Option Nat :=
  (specialSchemes.find? fun s => s.1.toList = scheme).map Prod.snd

def kindOf (scheme : List Char) : SchemeKind :=
  if (defaultNumber? scheme).isSome then .special
  else if scheme = "file".toList then .file
  else .other

def isSchemeChar (c : Char) : Bool :=
  c.isAlphanum || c = '+' || c = '-' || c = '.'

def splitScheme (cs : List Char) : Option (List Char × List Char) :=
  match cs with
  | [] => none
  | c :: _ =>
      if c.isAlpha then
        match cs.dropWhile isSchemeChar with
        | ':' :: rest => some ((cs.takeWhile isSchemeChar).map Char.toLower, rest)
        | _ => none
      else none

/-- The path, the query and the fragment as they stand, still to be encoded. -/
structure Tail where
  path : List Char
  query : Option (List Char)
  fragment : Option (List Char)

def splitTail (cs : List Char) : Tail :=
  let path := cs.takeWhile fun c => c ≠ '?' && c ≠ '#'
  match cs.drop path.length with
  | '?' :: rest =>
      let query := rest.takeWhile (· ≠ '#')
      match rest.drop query.length with
      | _ :: fragment => ⟨path, some query, some fragment⟩
      | [] => ⟨path, some query, none⟩
  | _ :: fragment => ⟨path, none, some fragment⟩
  | [] => ⟨path, none, none⟩

def isSlashOf (special : Bool) (c : Char) : Bool :=
  c = '/' || (special && c = '\\')

def endsAuthority (special : Bool) (c : Char) : Bool :=
  isSlashOf special c || c = '?' || c = '#'

def splitUser (authority : List Char) : Option (List Char) × List Char :=
  let behind := (authority.reverse.takeWhile (· ≠ '@')).reverse
  if behind.length = authority.length then (none, authority)
  else (some (authority.take (authority.length - behind.length - 1)), behind)

def splitHost : Bool → List Char → List Char → List Char × List Char
  | _, [], host => (host.reverse, [])
  | inside, c :: cs, host =>
      if c = ':' && !inside then (host.reverse, c :: cs)
      else splitHost (if c = '[' then true else if c = ']' then false else inside) cs (c :: host)

/-- A number below 2^16 in decimal digits, and what follows them, which is nothing or begins with a
backslash. No digits at all are no number. -/
def parseNumber (cs : List Char) : Except Fault (Option Nat × List Char) :=
  let digits := cs.takeWhile Char.isDigit
  let rest := cs.drop digits.length
  if rest.head?.any (· ≠ '\\') then .error .invalidPortNumber
  else if digits = [] then .ok (none, rest)
  else match numberIn? 10 digits with
    | some n => if n < 0x10000 then .ok (some n, rest) else .error .invalidPortNumber
    | none => .error .invalidPortNumber

def parseUser (cs : List Char) : List Char × Option (List Char) :=
  let user := cs.takeWhile (· ≠ ':')
  let encode := Text.Percent.encode isEncodedInUser
  match cs.drop user.length with
  | _ :: c :: password => (encode user, some (encode (c :: password)))
  | _ => (encode user, none)

/-- User, password, host and number, and the text behind the number that the path begins with. -/
structure Authority where
  user : List Char
  password : Option (List Char)
  host : Option Host
  portNumber : Option Nat
  behind : List Char

/-- The host and the number after it. A host may be missing only where the scheme is not special
and no number follows. -/
def parseHostAndNumber (special : Bool) (scheme cs : List Char) :
    Except Fault (Option Host × Option Nat × List Char) := do
  let (hostText, rest) := splitHost false cs []
  let host ←
    if special then
      if hostText = [] then .error .emptyHost else (parseHost hostText).map some
    else if hostText = [] then
      if rest = [] then .ok none else .error .emptyHost
    else (parseOpaqueHost hostText).map some
  let (number, behind) ← parseNumber rest.tail
  .ok (host, if number = defaultNumber? scheme then none else number, behind)

def parseAuthority (special : Bool) (scheme cs : List Char) (followed : Bool) :
    Except Fault Authority := do
  match splitUser cs with
  | (some [], machine) =>
      if machine = [] && followed then .error .emptyHost
      else
        let (host, number, behind) ← parseHostAndNumber special scheme machine
        .ok ⟨[], none, host, number, behind⟩
  | (some user, machine) =>
      let (host, number, behind) ← parseHostAndNumber special scheme machine
      let (user, password) := parseUser user
      if host = none && !(user = [] && password = none) then .error .emptyHost
      else .ok ⟨user, password, host, number, behind⟩
  | (none, machine) =>
      let (host, number, behind) ← parseHostAndNumber special scheme machine
      .ok ⟨[], none, host, number, behind⟩

def parsePath (special : Bool) (cs : List Char) : Path :=
  match cs with
  | [] => if special then .segments [[]] else .segments []
  | c :: rest =>
      let cs := if isSlashOf special c then rest else c :: rest
      .segments (parseSegments (isSlashOf special) cs)

def encodeQuery (special : Bool) (cs : List Char) : List Char :=
  Text.Percent.encode (isEncodedInQuery special) cs

def encodeFragment (cs : List Char) : List Char :=
  Text.Percent.encode isEncodedInFragment cs

def assemble (special : Bool) (scheme : List Char) (a : Authority) (path : Path) (tail : Tail) :
    Url :=
  ⟨scheme, a.user, a.password, a.host, a.portNumber, path, tail.query.map (encodeQuery special),
   tail.fragment.map encodeFragment⟩

def parseWithAuthority (special : Bool) (scheme cs : List Char) : Except Fault Url := do
  let text := cs.takeWhile fun c => !endsAuthority special c
  let rest := cs.drop text.length
  let a ← parseAuthority special scheme text (!rest.isEmpty)
  let tail := splitTail (a.behind ++ rest)
  .ok (assemble special scheme a (parsePath special tail.path) tail)

def noAuthority (host : Option Host) : Authority :=
  ⟨[], none, host, none, []⟩

def isDrive (cs : List Char) : Bool :=
  match cs with
  | [c, d] => c.isAlpha && (d = ':' || d = '|')
  | _ => false

/-- A file URL has a host only after two slashes, and the local machine counts as none. -/
def parseFile (scheme cs : List Char) : Except Fault Url := do
  match cs with
  | a :: b :: rest =>
      if isSlashOf true a && isSlashOf true b then
        let hostText := rest.takeWhile fun c => !endsAuthority true c
        let tail := splitTail (rest.drop hostText.length)
        if hostText = [] || isDrive hostText then
          let tail := splitTail rest
          .ok (assemble true scheme (noAuthority none) (parsePath true tail.path) tail)
        else
          let host ← parseHost hostText
          let host := if host = .name "localhost".toList then none else some host
          .ok (assemble true scheme (noAuthority host) (parsePath true tail.path) tail)
      else
        let tail := splitTail cs
        .ok (assemble true scheme (noAuthority none) (parsePath true tail.path) tail)
  | cs =>
      let tail := splitTail cs
      .ok (assemble true scheme (noAuthority none) (parsePath true tail.path) tail)

def parseOther (scheme cs : List Char) : Except Fault Url :=
  match cs with
  | '/' :: '/' :: rest => parseWithAuthority false scheme rest
  | '/' :: _ =>
      let tail := splitTail cs
      .ok (assemble false scheme (noAuthority none) (parsePath false tail.path) tail)
  | cs =>
      let tail := splitTail cs
      .ok (assemble false scheme (noAuthority none)
        (.plain (Text.Percent.encode isEncodedAlways tail.path)) tail)

def isOuterBlank (c : Char) : Bool :=
  c.toNat ≤ 0x20

def isDropped (c : Char) : Bool :=
  c = '\t' || c = '\n' || c = '\r'

def cleaned (cs : List Char) : List Char :=
  (((cs.dropWhile isOuterBlank).reverse.dropWhile isOuterBlank).reverse).filter fun c =>
    !isDropped c

def parse (text : List Char) : Except Fault Url :=
  match splitScheme (cleaned text) with
  | none => .error .noScheme
  | some (scheme, rest) =>
      match kindOf scheme with
      | .special => parseWithAuthority true scheme (rest.dropWhile (isSlashOf true))
      | .file => parseFile scheme rest
      | .other => parseOther scheme rest

def withQuery (u : Url) (query : List Char) : Url :=
  { u with query := some (encodeQuery (kindOf u.scheme ≠ .other)
      (query.filter fun c => !isDropped c)) }

end LiveTree.Url
