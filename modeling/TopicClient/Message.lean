import TopicClient.Error
import TopicClient.Json.Basic

/-!
# Messages

A message is a kind, optional header fields and an optional body. Codes that
have no name of their own stay distinguishable as `other`.
-/

namespace TopicClient

inductive MessageKind where
  | publish
  | subscribe
  | request
  | response
  | ping
  | pong
  | alive
  | metadata
  | other (code : UInt8)
deriving DecidableEq, Repr, Inhabited

namespace MessageKind

def code : MessageKind → UInt8
  | publish => 0
  | subscribe => 1
  | request => 2
  | response => 3
  | ping => 4
  | pong => 5
  | alive => 6
  | metadata => 9
  | other c => c

def ofCode : UInt8 → MessageKind
  | 0 => publish
  | 1 => subscribe
  | 2 => request
  | 3 => response
  | 4 => ping
  | 5 => pong
  | 6 => alive
  | 9 => metadata
  | c => other c

def name : MessageKind → String
  | publish => "publish"
  | subscribe => "subscribe"
  | request => "request"
  | response => "response"
  | ping => "ping"
  | pong => "pong"
  | alive => "alive"
  | metadata => "meta"
  | other c => "type(" ++ Json.natText c.toNat ++ ")"

end MessageKind

/-- How the body of a publish applies to its topic. -/
inductive UpdateKind where
  | diff
  | full
  | append
  | update
  | close
  | burstStart
  | burstEnd
  | event
  | other (code : UInt8)
deriving DecidableEq, Repr, Inhabited

namespace UpdateKind

def code : UpdateKind → UInt8
  | diff => 0
  | full => 1
  | append => 2
  | update => 3
  | close => 4
  | burstStart => 5
  | burstEnd => 6
  | event => 8
  | other c => c

def ofCode : UInt8 → UpdateKind
  | 0 => diff
  | 1 => full
  | 2 => append
  | 3 => update
  | 4 => close
  | 5 => burstStart
  | 6 => burstEnd
  | 8 => event
  | c => other c

/-- Handlers are told of the update and no snapshot changes. -/
def isPassThrough : UpdateKind → Bool
  | append | update | event | burstStart | burstEnd => true
  | _ => false

def name : UpdateKind → String
  | diff => "diff"
  | full => "full"
  | append => "append"
  | update => "update"
  | close => "close"
  | burstStart => "burstStart"
  | burstEnd => "burstEnd"
  | event => "event"
  | other c => "update(" ++ Json.natText c.toNat ++ ")"

end UpdateKind

/-- Topics with the timestamp last applied to each, in the order they were added. -/
structure Cursors where
  entries : List (String × Int64)
deriving DecidableEq, Repr, Inhabited

namespace Cursors

def ofList (entries : List (String × Int64)) : Cursors := ⟨Assoc.ofList entries⟩

def topics (c : Cursors) : List String := Assoc.keys c.entries

end Cursors

/-- Names and values, names ascending. -/
structure Metadata where
  entries : List (String × String)
deriving DecidableEq, Repr, Inhabited

def Metadata.ofList (entries : List (String × String)) : Metadata :=
  ⟨Assoc.ofListSorted entries⟩

structure Message where
  kind : MessageKind := .publish
  id : Option UInt64 := none
  error : Option ServerError := none
  uri : Option String := none
  ts : Option Int64 := none
  update : Option UpdateKind := none
  subscriptions : Option Cursors := none
  metadata : Option Metadata := none
  body : Option Json := none
deriving Repr, Inhabited

namespace Message

def request (uri : String) (id : UInt64) (body : Json) : Message :=
  { kind := .request, id := some id, uri := some uri, body := some body }

def response (id : UInt64) (body : Json) : Message :=
  { kind := .response, id := some id, body := some body }

def errorResponse (id : UInt64) (error : ServerError) : Message :=
  { kind := .response, id := some id, error := some error }

def publish (uri : String) (ts : Int64) (mode : UpdateKind) (body : Option Json) :
    Message :=
  { kind := .publish, uri := some uri, ts := some ts, update := some mode, body := body }

def subscribe (cursors : Cursors) : Message :=
  { kind := .subscribe, subscriptions := some cursors }

/-- The token travels as the timestamp, read as a signed word. -/
def ping (token : UInt64) : Message :=
  { kind := .ping, ts := some token.toInt64 }

def pong : Message := { kind := .pong }

def describe (metadata : Metadata) : Message :=
  { kind := .metadata, metadata := some metadata }

/-- An absent topic is the empty one. -/
def topic (m : Message) : String := m.uri.getD ""

/-- A publish says how its body applies; by default it is a diff. -/
def withUpdate (m : Message) : Message :=
  if m.kind = .publish ∧ m.update = none then { m with update := some .diff } else m

def sameBody : Option Json → Option Json → Bool
  | none, none => true
  | some a, some b => a.same b
  | _, _ => false

/-- Equality up to equality of bodies as values. -/
def same (a b : Message) : Bool :=
  a.kind = b.kind && a.id = b.id && a.error = b.error && a.uri = b.uri && a.ts = b.ts &&
    a.update = b.update && a.subscriptions = b.subscriptions &&
    a.metadata = b.metadata && sameBody a.body b.body

end Message

end TopicClient
