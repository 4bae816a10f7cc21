import TopicClient.Domain.Name
import TopicClient.Url.Numeric
import TopicClient.Url.Path

/-!
# Addresses

Which texts are absolute URLs, and what is wrong with those that are not. Only
the scheme, the host and the port can be wrong; paths, queries and fragments
hold anything. Schemes of the web need a host; other schemes may go without.
-/

namespace TopicClient.Url

inductive Fault where
  | noScheme
  | emptyHost
  | badDomain
  | badCharacter
  | badPort
  | badIpv4
  | badIpv6
deriving DecidableEq, Repr

def Fault.message : Fault → String
  | noScheme => "relative URL without a base"
  | emptyHost => "empty host"
  | badDomain => "invalid international domain name"
  | badCharacter => "invalid domain character"
  | badPort => "invalid port number"
  | badIpv4 => "invalid IPv4 address"
  | badIpv6 => "invalid IPv6 address"

/-- Blanks and controls around a URL do not count, nor do tabs and line ends within. -/
def clean (text : String) : List Char :=
  let isOuter (c : Char) : Bool := c.toNat ≤ 32
  let inner := ((text.toList.dropWhile isOuter).reverse.dropWhile isOuter).reverse
  inner.filter fun c => !(c = '\t' || c = '\n' || c = '\r')

def isSchemeChar (c : Char) : Bool :=
  c.isAlphanum || c = '+' || c = '-' || c = '.'

/-- The scheme in lower case and what follows its colon. -/
def scheme? (cs : List Char) : Option (String × List Char) :=
  match cs.dropWhile isSchemeChar with
  | ':' :: rest =>
    if (cs.headD ':').isAlpha then
      some ((String.ofList (cs.takeWhile isSchemeChar)).toLower, rest)
    else none
  | _ => none

/-! ## Hosts -/

def unescaped : List Char → List UInt8
  | '%' :: a :: b :: cs =>
    match Json.hexDigit? a, Json.hexDigit? b with
    | some x, some y => UInt8.ofNat (x * 16 + y) :: unescaped cs
    | _, _ => 37 :: unescaped (a :: b :: cs)
  | c :: cs => (String.singleton c).toUTF8.toList ++ unescaped cs
  | [] => []

def isForbiddenOpaque (c : Char) : Bool :=
  c.toNat = 0 || c = ' ' || "#/:<>?@[\\]^|".toList.contains c

/-- A host in brackets is an IPv6 address, one that ends in a number an IPv4 address,
and any other a domain. -/
def hostFault? (host : List Char) : Option Fault :=
  match host with
  | [] => some .emptyHost
  | '[' :: rest =>
    if rest.getLast? = some ']' && isIpv6 rest.dropLast then none else some .badIpv6
  | _ =>
    match String.fromUTF8? ⟨(unescaped host).toArray⟩ with
    | none => some .badDomain
    | some text =>
      match Domain.labels? text.toList with
      | none => some .badDomain
      | some [[]] => some .emptyHost
      | some labels => if endsInNumber labels && !isIpv4 labels then some .badIpv4 else none

/-- The host of a scheme outside the web. -/
def opaqueHostFault? (host : List Char) : Option Fault :=
  match host with
  | '[' :: _ => hostFault? host
  | _ => if host.any isForbiddenOpaque then some .badCharacter else none

/-- The port after a host; it may be left empty. -/
def portFault? (port : List Char) : Option Fault :=
  if port.isEmpty then none
  else
    match decimal? port with
    | some n => if n < 65536 then none else some .badPort
    | none => some .badPort

/-- The text up to the first colon outside brackets, and the rest. -/
def hostAndPort (inside : Bool) : List Char → List Char × List Char
  | [] => ([], [])
  | c :: cs =>
    if c = ':' && !inside then ([], c :: cs)
    else
      let (host, port) := hostAndPort (c = '[' || (inside && c ≠ ']')) cs
      (c :: host, port)

/-- What stands before the last `@`, if there is one, and what stands after it. -/
def login (authority : List Char) : Option (List Char) × List Char :=
  if authority.contains '@' then
    let after := (authority.reverse.takeWhile (· ≠ '@')).reverse
    (some (authority.take (authority.length - after.length - 1)), after)
  else (none, authority)

def webAuthorityFault? (authority : List Char) : Option Fault :=
  let (host, port) := hostAndPort false (login authority).2
  hostFault? host <|> portFault? (port.drop 1)

/-- A lone colon names no user. -/
def namesUser (user : List Char) : Bool := user ≠ [] && user ≠ [':']

/-- The authority of a scheme outside the web. A user and a port need a host, and so
does an `@` at its start, unless nothing follows. -/
def opaqueAuthorityFault? (authority rest : List Char) : Option Fault :=
  let (user, place) := login authority
  let (host, port) := hostAndPort false place
  let hostNeeded := !port.isEmpty || user.any namesUser || (user = some [] && !rest.isEmpty)
  if host.isEmpty && hostNeeded then some .emptyHost
  else opaqueHostFault? host <|> portFault? ((port.drop 1).takeWhile (· ≠ '\\'))

/-! ## Whole addresses -/

def isSlash (c : Char) : Bool := c = '/' || c = '\\'

def isEnd (c : Char) : Bool := c = '/' || c = '?' || c = '#'

/-- A drive letter is no host. -/
def fileFault? (rest : List Char) : Option Fault :=
  match rest with
  | a :: b :: cs =>
    if isSlash a && isSlash b then
      let host := cs.takeWhile fun c => !(isEnd c || c = '\\')
      if host.isEmpty || isDrive host then none else hostFault? host
    else none
  | _ => none

/-- What is wrong with an address, if anything is. -/
def fault? (text : String) : Option Fault :=
  match scheme? (clean text) with
  | none => some .noScheme
  | some (scheme, rest) =>
    if ["http", "https", "ws", "wss", "ftp"].contains scheme then
      webAuthorityFault? ((rest.dropWhile isSlash).takeWhile fun c => !(isEnd c || c = '\\'))
    else if scheme = "file" then fileFault? rest
    else
      match rest with
      | '/' :: '/' :: cs =>
        opaqueAuthorityFault? (cs.takeWhile fun c => !isEnd c) (cs.dropWhile fun c => !isEnd c)
      | _ => none

end TopicClient.Url
