import TopicClient.Json.Draft
import TopicClient.Text.Split

/-!
# Numeric hosts

Hosts that are addresses of their own: four bytes as one to four numbers between
dots, or eight groups of 16 bits between colons.
-/

namespace TopicClient.Url

open Text

def decimal? (cs : List Char) : Option Nat :=
  if cs ≠ [] && cs.all Char.isDigit then
    some (cs.foldl (fun n c => n * 10 + (c.toNat - 48)) 0)
  else none

/-- A number in base ten, or in base sixteen after `0x`, or in base eight after `0`. -/
def hostNumber? (cs : List Char) : Option Nat :=
  let value (base : Nat) (ds : List Char) : Option Nat :=
    ds.foldl (fun n c => n.bind fun n =>
      (Json.hexDigit? c).bind fun d => if d < base then some (n * base + d) else none) (some 0)
  match cs with
  | [] => none
  | '0' :: x :: ds => if x = 'x' || x = 'X' then value 16 ds else value 8 (x :: ds)
  | ds => value 10 ds

/-- The labels without the empty one after a last dot. -/
def dotted (labels : List (List Char)) : List (List Char) :=
  match labels.reverse with
  | [] :: p :: ps => (p :: ps).reverse
  | _ => labels

def endsInNumber (labels : List (List Char)) : Bool :=
  match (dotted labels).getLast? with
  | some p => (p ≠ [] && p.all Char.isDigit) || (hostNumber? p).isSome
  | none => false

/-- At most four numbers, each but the last below 256 and the last below what is left. -/
def isIpv4 (labels : List (List Char)) : Bool :=
  let numbers := (dotted labels).map hostNumber?
  let values := numbers.filterMap id
  numbers.all Option.isSome && values.length ≤ 4 &&
    values.dropLast.all (· < 256) &&
    values.getLast?.all fun last => last < Nat.pow 256 (5 - values.length)

/-- A group of up to four hexadecimal digits. -/
def isGroup (cs : List Char) : Bool :=
  cs ≠ [] && cs.length ≤ 4 && cs.all fun c => (Json.hexDigit? c).isSome

/-- Four numbers below 256 without needless zeros. -/
def isQuad (cs : List Char) : Bool :=
  let ps := parts '.' cs
  ps.length = 4 && ps.all fun p =>
    (decimal? p).any (· < 256) && (p.length = 1 || p.head? ≠ some '0')

/-- How many groups of 16 bits the text stands for; a final quad stands for two. -/
def groupCount? (quadAllowed : Bool) (cs : List Char) : Option Nat :=
  if cs.isEmpty then some 0
  else
    let gs := parts ':' cs
    if gs.all isGroup then some gs.length
    else if quadAllowed && gs.dropLast.all isGroup && gs.getLast?.any isQuad then
      some (gs.length + 1)
    else none

/-- The text around the first double colon. -/
def aroundGap? : List Char → Option (List Char × List Char)
  | ':' :: ':' :: cs => some ([], cs)
  | c :: cs => (aroundGap? cs).map fun (l, r) => (c :: l, r)
  | [] => none

/-- Eight groups, or fewer around one double colon. -/
def isIpv6 (cs : List Char) : Bool :=
  match aroundGap? cs with
  | none => groupCount? true cs = some 8
  | some (left, right) =>
    match groupCount? false left, groupCount? true right with
    | some m, some n => m + n ≤ 7
    | _, _ => false

end TopicClient.Url
