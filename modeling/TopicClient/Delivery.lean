import TopicClient.Snapshot.Merge
import TopicClient.Message

/-!
# Events and their delivery

What the handlers of a topic are told, and how they are called: in the order in
which they were registered, each exactly once. A handler may fail; it is then
reported and the others are still called. What a handler does is left open: a
call takes the state of its surroundings to the state that it leaves.
-/

namespace TopicClient

abbrev HandlerId := Nat

inductive TopicEvent where
  | state (topic : String) (ts : Int64) (mode : Option UpdateKind)
      (snapshot : Option Snapshot) (diff : Option Json)
  | notification (topic : String) (ts : Int64) (mode : UpdateKind) (body : Option Json)
  | closed (topic : String) (ts : Int64)
deriving Repr

def TopicEvent.topic : TopicEvent → String
  | state topic _ _ _ _ => topic
  | notification topic _ _ _ => topic
  | closed topic _ => topic

/-- An event and the handlers to tell, in the order they were registered. -/
structure Delivery (H : Type) where
  handlers : List (HandlerId × H)
  event : TopicEvent

/-- What a failing handler leaves behind. -/
inductive Panic where
  | text (message : String)
  | wordless
deriving DecidableEq, Repr

def Panic.message : Panic → String
  | text message => message
  | wordless => "handler panicked"

/-- The diagnostic record of a failed call. -/
def Panic.record (topic : String) (p : Panic) : Json :=
  Json.object [("name", .str "handlerPanic"), ("topic", .str topic),
    ("message", .str p.message)]

/-- One call of a handler on an event. -/
abbrev Call (H : Type) (σ : Type) :=
  HandlerId → H → TopicEvent → σ → Option Panic × σ

namespace Delivery
variable {H σ : Type}

/-- Calls the handlers one after the other and counts those that complete. -/
def callAll (call : Call H σ) (report : Panic → σ → σ) (event : TopicEvent) :
    List (HandlerId × H) → σ → Nat × σ
  | [], s => (0, s)
  | (id, h) :: rest, s =>
    match call id h event s with
    | (none, s) =>
      let (completed, s) := callAll call report event rest s
      (completed + 1, s)
    | (some panic, s) => callAll call report event rest (report panic s)

def dispatch (call : Call H σ) (report : TopicEvent → Panic → σ → σ)
    (d : Delivery H) (s : σ) : Nat × σ :=
  callAll call (report d.event) d.event d.handlers s

end Delivery

end TopicClient
