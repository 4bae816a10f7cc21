import TopicClient.Delivery

/-!
# Topics and their handlers

A registry keeps the tracked topics in the order they were added, each with its
cursor, its handlers and the snapshot made of its full and diff updates. A topic
lives from its first handler to its last, or until the server closes it. The
registry never runs a handler; what is to be told is returned as a delivery.
-/

namespace TopicClient

structure Subscription (H : Type) where
  ts : Int64 := 0
  handlers : List (HandlerId × H) := []
  snapshot : Option Snapshot := none

inductive Outcome (H : Type) where
  | delivered (d : Delivery H)
  | topicNotFound
  | unknownUpdate (code : UInt8)

structure Registry (H : Type) where
  topics : List (String × Subscription H) := []
  lastHandler : HandlerId := 0
  track : Bool := true

namespace Registry
variable {H : Type}

def cursors (r : Registry H) : Cursors :=
  ⟨r.topics.map fun e => (e.1, e.2.ts)⟩

/-- Names every topic with its cursor. -/
def subscribeMessage (r : Registry H) : Message := .subscribe r.cursors

def find? (topic : String) (r : Registry H) : Option (Subscription H) :=
  Assoc.find? topic r.topics

def snapshot? (topic : String) (r : Registry H) : Option Snapshot :=
  (r.find? topic).bind Subscription.snapshot

def names (r : Registry H) : List String := Assoc.keys r.topics

/-- The outcome of an operation that may change the set of topics; if it does,
`announcement` is what the server is to be told. -/
structure Changed (H : Type) (α : Type) where
  result : α
  registry : Registry H
  announcement : Option Message
  notices : List Notice

/-- A handler that joins a topic is told the state of that moment, alone. -/
def replay (topic : String) (id : HandlerId) (h : H) (s : Subscription H) : Delivery H :=
  ⟨[(id, h)], .state topic s.ts none s.snapshot none⟩

def add (topic : String) (h : H) (r : Registry H) :
    Changed H (HandlerId × Option (Delivery H)) :=
  let id := r.lastHandler + 1
  match r.find? topic with
  | some s =>
    let joined := { s with handlers := s.handlers ++ [(id, h)] }
    { result := (id, some (replay topic id h s))
      registry := { r with topics := Assoc.put topic joined r.topics, lastHandler := id }
      announcement := none
      notices := [] }
  | none =>
    let registry :=
      { r with topics := Assoc.put topic { handlers := [(id, h)] } r.topics, lastHandler := id }
    { result := (id, none)
      registry := registry
      announcement := some registry.subscribeMessage
      notices := [.subscribed topic] }

/-- Whether the handler was registered for the topic. The last one takes the topic
with it. -/
def remove (topic : String) (id : HandlerId) (r : Registry H) : Changed H (Bool) :=
  match r.find? topic with
  | none => ⟨false, r, none, []⟩
  | some s =>
    if s.handlers.any (·.1 = id) then
      let left := s.handlers.filter (·.1 ≠ id)
      if left.isEmpty then
        let registry := { r with topics := Assoc.erase topic r.topics }
        ⟨true, registry, some registry.subscribeMessage, [.unsubscribed topic]⟩
      else
        ⟨true, { r with topics := Assoc.put topic { s with handlers := left } r.topics }, none, []⟩
    else ⟨false, r, none, []⟩

def set (topic : String) (s : Subscription H) (r : Registry H) : Registry H :=
  { r with topics := Assoc.put topic s r.topics }

/-- The snapshot after a diff; a diff without a body merges nothing. -/
def merged (now : Int) (track : Bool) (body : Option Json) (old : Option Snapshot) : Snapshot :=
  let base := old.getD (.empty track)
  match body with
  | some diff => base.merge now diff
  | none => base

def mergeNotices : Option Json → List Notice
  | some diff => Snapshot.mergeNotices diff
  | none => []

structure Published (H : Type) where
  outcome : Outcome H
  registry : Registry H
  notices : List Notice

/-- Applies an update of a tracked topic, whose cursor has been moved already. -/
def apply (now : Int) (topic : String) (s : Subscription H) (mode : UpdateKind)
    (body : Option Json) (r : Registry H) : Published H :=
  let tell (event : TopicEvent) : Outcome H := .delivered ⟨s.handlers, event⟩
  match mode with
  | .other code => ⟨.unknownUpdate code, r.set topic s, [.unknownUpdate topic code]⟩
  | .close =>
    ⟨tell (.closed topic s.ts), { r with topics := Assoc.erase topic r.topics },
      [.topicClosed topic]⟩
  | .full =>
    let snapshot := Snapshot.ofJson r.track (body.getD .null)
    ⟨tell (.state topic s.ts (some .full) (some snapshot) none),
      r.set topic { s with snapshot := some snapshot }, []⟩
  | .diff =>
    let snapshot := merged now r.track body s.snapshot
    ⟨tell (.state topic s.ts (some .diff) (some snapshot) body),
      r.set topic { s with snapshot := some snapshot }, mergeNotices body⟩
  | mode => ⟨tell (.notification topic s.ts mode body), r.set topic s, []⟩

/-- Applies a publish. An absent topic is the empty one, an absent update a diff, and
an absent timestamp leaves the cursor where it is. -/
def publish (now : Int) (m : Message) (r : Registry H) : Published H :=
  match r.find? m.topic with
  | none => ⟨.topicNotFound, r, [.topicNotFound m.topic]⟩
  | some s => r.apply now m.topic { s with ts := m.ts.getD s.ts } (m.update.getD .diff) m.body

end Registry

end TopicClient
