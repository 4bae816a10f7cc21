import TopicClient.Domain.Direction
import TopicClient.Domain.Folding
import TopicClient.Domain.Joining
import TopicClient.Domain.Punycode
import TopicClient.Text.Composed

/-!
# Domain names

A domain is read as labels between dots. Its characters are folded and composed
first; a label in the ASCII form of other characters is read as those. Labels may be
empty and of any length, but for the work that the ASCII form takes.
-/

namespace TopicClient.Domain

open Text

def folded? (cs : List Char) : Option (List Char) :=
  (cs.mapM fold?).map fun spellings => composed spellings.flatten

def isAscii (cs : List Char) : Bool := cs.all fun c => c.toNat < 128

/-- The label that an ASCII form stands for. It has to be as folding would leave it. -/
def ofAscii? (form : List Char) : Option (List Char) :=
  if isAscii form && form.length ≤ 2000 && form.getLast?.any (· ≠ '-') then
    (Punycode.decode? form).filter fun label => folded? label = some label
  else none

/-- What a label between dots stands for. -/
def label? : List Char → Option (List Char)
  | 'x' :: 'n' :: '-' :: '-' :: form => ofAscii? form
  | label => if isAscii label || label.length ≤ 1000 then some label else none

/-- Characters that mean something else in an address. -/
def isDenied (c : Char) : Bool :=
  c.toNat ≤ 32 || c.toNat = 127 || "%#/:<>?@[\\]^|".toList.contains c

def isSound (label : List Char) : Bool :=
  !label.any isDenied && !label.contains '.' && !label.head?.any isMark && joinersFit [] label

/-- The labels of a domain; `none` for a text that is no domain. -/
def labels? (cs : List Char) : Option (List (List Char)) := do
  let labels ← (parts '.' (← folded? cs)).mapM label?
  if labels.all isSound && directionsAgree labels then some labels else none

end TopicClient.Domain
