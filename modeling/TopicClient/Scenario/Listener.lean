import TopicClient.Client.Core

/-!
# Listeners

Handlers of a script: each keeps what it is told in a common journal, under its
name, and may then react. A listener can leave only once its own registration is
known, which it is not during the replay that comes with it.
-/

namespace TopicClient.Scenario

inductive Reaction where
  | panic (p : Panic)
  | unsubscribe
  | subscribe (topic : String)
  | close
deriving DecidableEq, Repr

structure Listener where
  name : String
  topic : String
  reaction : Option Reaction := none
deriving DecidableEq, Repr

inductive Entry where
  | heard (event : TopicEvent)
  | unsubscribed (removed : Bool)

structure Journal where
  entries : List (String × Entry) := []
  known : List HandlerId := []

def note (name : String) (entry : Entry) (c : Core Listener Journal) : Core Listener Journal :=
  let journal := c.surroundings
  { c with surroundings := { journal with entries := journal.entries ++ [(name, entry)] } }

/-- The handler that a reaction adds; it is told only of what comes later. -/
def follower (topic : String) (h : Listener) : Listener := { name := h.name ++ "+", topic }

def react (id : HandlerId) (h : Listener) (c : Core Listener Journal) :
    Reaction → Option Panic × Core Listener Journal
  | .panic p => (some p, c)
  | .unsubscribe =>
    let (removed, d) :=
      if id ∈ c.surroundings.known then c.unsubscribe h.topic id else (false, c)
    (none, note h.name (.unsubscribed removed) d)
  | .subscribe topic =>
    if (c.registry.find? topic).isSome then (none, c)
    else
      let changed := c.registry.add topic (follower topic h)
      (none,
        { c with
          registry := changed.registry
          outbox := c.outbox ++ changed.announcement.toList })
  | .close => (none, c.close)

/-- A listener keeps the event, then reacts. -/
def listen : Behaviour Listener Journal := fun id h event c =>
  let c := note h.name (.heard event) c
  match h.reaction with
  | some reaction => react id h c reaction
  | none => (none, c)

end TopicClient.Scenario
