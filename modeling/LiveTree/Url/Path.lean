import LiveTree.Text.Percent
import LiveTree.Url.Host

namespace LiveTree.Url

def isEncodedAlways (c : Char) : Bool :=
  isControl c || !isAscii c

def isEncodedInFragment (c : Char) : Bool :=
  isEncodedAlways c || " \"<>`".toList.contains c

def isEncodedInPath (c : Char) : Bool :=
  isEncodedInFragment c || "#?\x7b\x7d".toList.contains c

def isEncodedInUser (c : Char) : Bool :=
  isEncodedInPath c || "/:;=@[\\]^|".toList.contains c

def isEncodedInQuery (special : Bool) (c : Char) : Bool :=
  isEncodedAlways c || " \"#<>".toList.contains c || (special && c = '\'')

def isSingleDot (segment : List Char) : Bool :=
  segment.map Char.toLower = ['.'] || segment.map Char.toLower = ['%', '2', 'e']

/-- A segment that stands for a step back: two dots, either of them perhaps as its triple. -/
def isDoubleDot (segment : List Char) : Bool :=
  ["..", ".%2e", "%2e.", "%2e%2e"].any fun s => s.toList = segment.map Char.toLower

def rawSegments (isSlash : Char → Bool) : List Char → List Char → List (List Char × Bool)
  | [], segment => [(segment.reverse, false)]
  | c :: cs, segment =>
      if isSlash c then (segment.reverse, true) :: rawSegments isSlash cs []
      else rawSegments isSlash cs (c :: segment)

/-- One more segment onto a path in reverse. Steps are taken at once; at the end of a path they
leave an empty segment. -/
def stepSegment (path : List (List Char)) (raw : List Char × Bool) : List (List Char) :=
  let segment := Text.Percent.encode isEncodedInPath raw.1
  if isDoubleDot segment then if raw.2 then path.tail else [] :: path.tail
  else if isSingleDot segment then if raw.2 then path else [] :: path
  else segment :: path

def parseSegments (isSlash : Char → Bool) (cs : List Char) : List (List Char) :=
  ((rawSegments isSlash cs []).foldl stepSegment []).reverse

inductive Path where
  | segments (ss : List (List Char))
  | plain (cs : List Char)
  deriving DecidableEq, Repr

def Path.render : Path → List Char
  | .segments ss => ss.flatMap ('/' :: ·)
  | .plain cs => cs

end LiveTree.Url
