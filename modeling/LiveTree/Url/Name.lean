import LiveTree.Text.Composition
import LiveTree.Text.Direction
import LiveTree.Text.Joining
import LiveTree.Text.Punycode
import LiveTree.Url.Admitted
import LiveTree.Url.Replacement

namespace LiveTree.Url

def isAscii (c : Char) : Bool :=
  c.toNat < 0x80

def mapped? (c : Char) : Option (List Char) :=
  if isAscii c then some [c.toLower]
  else if isAdmitted c then some [c]
  else if ignoredRanges.holds c then some []
  else replacement? c

def normalized? (cs : List Char) : Option (List Char) :=
  if cs.all isAscii then some (cs.map Char.toLower)
  else (cs.mapM mapped?).map fun parts => Text.composed parts.flatten

def mostWritten : Nat := 2000

def mostMeant : Nat := 1000

/-- An international label holds admitted characters in their composed form, does not begin with a
mark, and has a use for its joiners. -/
def isSoundLabel (cs : List Char) : Bool :=
  cs.length ≤ mostMeant && cs.all (fun c => isAscii c || isAdmitted c) && Text.isComposed cs
    && !cs.head?.any Text.isMark && Text.haveUse [] cs

/-- The label that is written so behind `xn--`. One without any character beyond ASCII is not
written so. -/
def international? (body : List Char) : Option (List Char) :=
  if body = [] || body.getLast? = some '-' || mostWritten < body.length || !body.all isAscii then none
  else (Text.Punycode.decode? body).filter isSoundLabel

structure Label where
  written : List Char
  meant : List Char

def label? (cs : List Char) : Option Label :=
  match cs with
  | 'x' :: 'n' :: '-' :: '-' :: body => (international? body).map (⟨cs, ·⟩)
  | _ =>
      if cs.all isAscii then some ⟨cs, cs⟩
      else if isSoundLabel cs then some ⟨"xn--".toList ++ Text.Punycode.encode cs, cs⟩
      else none

def areDirected (labels : List (List Char)) : Bool :=
  !labels.any (fun l => l.any fun c => (Text.direction c).isTurning)
    || labels.all Text.hasOneDirection

def asciiName? (name : List Char) : Option (List Char) := do
  let labels ← (Text.splitOn '.' name).mapM label?
  if areDirected (labels.map Label.meant) then
    some (List.intercalate ['.'] (labels.map Label.written))
  else none

end LiveTree.Url
