import TopicClient.Text.Split

/-!
# Paths and queries

What a client asks a web server for, when a path and a query are given as text. Steps
up and down the path are carried out, and characters that a request cannot hold are
written as the bytes they stand for, in base sixteen after a percent sign.
-/

namespace TopicClient.Url

open Text

def escapedByte (b : UInt8) : List Char :=
  let digit (n : Nat) : Char := "0123456789ABCDEF".toList.getD n '0'
  ['%', digit (b.toNat / 16), digit (b.toNat % 16)]

/-- Escapes the characters of a set, controls, and characters outside ASCII. -/
def escaped (unfit : List Char) (cs : List Char) : List Char :=
  cs.flatMap fun c =>
    if c.toNat < 32 || 127 ≤ c.toNat || unfit.contains c then
      (String.singleton c).toUTF8.toList.flatMap escapedByte
    else [c]

def unfitForPath : List Char := [' ', '"', '<', '>', '\x60', '\x7b', '\x7d']

def unfitForQuery : List Char := [' ', '"', '#', '<', '>', '\'']

/-- A step of a path. A dot may be written as an escape. -/
inductive Step where
  | up
  | stay
  | down (name : List Char)
deriving DecidableEq, Repr

def Step.ofName (name : List Char) : Step :=
  match String.ofList (name.map Char.toLower) with
  | "." | "%2e" => stay
  | ".." | ".%2e" | "%2e." | "%2e%2e" => up
  | _ => down (escaped unfitForPath name)

/-- A drive letter; steps up stop at it. -/
def isDrive : List Char → Bool
  | [a, b] => a.isAlpha && (b = ':' || b = '|')
  | _ => false

/-- Where the steps lead from a place, the last name first. A path that does not end
with a name ends with a slash. -/
def walk (place : List (List Char)) : List (List Char) → List (List Char)
  | [] => place
  | name :: names =>
    match Step.ofName name with
    | .down name => walk (name :: place) names
    | .stay => walk (if names.isEmpty then [] :: place else place) names
    | .up =>
      let place := if place.head?.any isDrive then place else place.tail
      walk (if names.isEmpty then [] :: place else place) names

/-- The path, with a slash before each of its names. -/
def path (cs : List Char) : List Char :=
  let names :=
    match parts '/' (cs.map fun c => if c = '\\' then '/' else c) with
    | [] :: name :: names => name :: names
    | names => names
  (walk [] names).reverse.flatMap ('/' :: ·)

/-- What follows the host of an address, as a request has it: the path and, if there is
one, the query. Tabs and line ends do not count, and a fragment is not asked for.
`none` for a text that cannot follow a host. -/
def requested? (text : String) : Option String :=
  let cs := text.toList.filter fun c => !(c = '\t' || c = '\n' || c = '\r')
  if cs.head?.any ['/', '\\', '?', '#'].contains then
    let cs := cs.takeWhile (· ≠ '#')
    let query :=
      match cs.dropWhile (· ≠ '?') with
      | [] => []
      | _ :: query => '?' :: escaped unfitForQuery query
    some (String.ofList (path (cs.takeWhile (· ≠ '?')) ++ query))
  else none

end TopicClient.Url
