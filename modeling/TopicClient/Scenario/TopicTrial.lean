import TopicClient.Scenario.Listener

/-!
# Topics on their own

A registry with listeners that only listen or fail, and all that can be seen of
it: who was called, what was announced, and what was recorded and noticed.
-/

namespace TopicClient.Scenario

/-- What a publish came to; a delivery counts the listeners that completed. -/
inductive Told where
  | delivered (event : TopicEvent) (completed : Nat)
  | topicNotFound
  | unknownUpdate (code : UInt8)

structure TopicTrial where
  registry : Registry Listener
  heard : List TopicEvent := []
  called : List (String × String) := []
  errors : List Json := []
  notices : List Notice := []
  sent : List Message := []

namespace TopicTrial

def start (track : Bool) : TopicTrial := { registry := { track } }

/-- What is reported counts from the last report on, but events are kept for good. -/
def cleared (t : TopicTrial) : TopicTrial :=
  { t with called := [], errors := [], notices := [], sent := [] }

def call : Call Listener TopicTrial := fun _ h event t =>
  let panic :=
    match h.reaction with
    | some (.panic p) => some p
    | _ => none
  (panic,
    { t with heard := t.heard ++ [event], called := t.called ++ [(h.name, event.topic)] })

def report (event : TopicEvent) (p : Panic) (t : TopicTrial) : TopicTrial :=
  { t with
    errors := t.errors ++ [p.record event.topic]
    notices := t.notices ++ [.handlerPanicked event.topic] }

def deliver (d : Delivery Listener) (t : TopicTrial) : Nat × TopicTrial :=
  d.dispatch call report t

def changed {α : Type} (c : Registry.Changed Listener α) (t : TopicTrial) : TopicTrial :=
  { t with
    registry := c.registry
    notices := t.notices ++ c.notices
    sent := t.sent ++ c.announcement.toList }

/-- Adds a listener; one that joins a topic is told its state. -/
def add (h : Listener) (t : TopicTrial) : HandlerId × Option Told × TopicTrial :=
  let c := t.registry.add h.topic h
  let t := t.changed c
  match c.result with
  | (id, none) => (id, none, t)
  | (id, some d) =>
    let (completed, t) := t.deliver d
    (id, some (.delivered d.event completed), t)

def remove (topic : String) (id : HandlerId) (t : TopicTrial) : Bool × TopicTrial :=
  let c := t.registry.remove topic id
  (c.result, t.changed c)

def publish (m : Message) (t : TopicTrial) : Told × TopicTrial :=
  let p := t.registry.publish 0 m
  let t := { t with registry := p.registry, notices := t.notices ++ p.notices }
  match p.outcome with
  | .delivered d =>
    let (completed, t) := t.deliver d
    (.delivered d.event completed, t)
  | .topicNotFound => (.topicNotFound, t)
  | .unknownUpdate code => (.unknownUpdate code, t)

/-- Publishes all messages, of whatever kind. -/
def publishAll (ms : List Message) (t : TopicTrial) : List Told × TopicTrial :=
  match ms with
  | [] => ([], t)
  | m :: ms =>
    let (told, t) := t.publish m
    let (more, t) := t.publishAll ms
    (told :: more, t)

/-- Publishes all messages of a payload. -/
def receive (v : Version) (text : String) (t : TopicTrial) : List Told × TopicTrial :=
  let u := Wire.unpack v text
  { t with notices := t.notices ++ u.notices }.publishAll u.result

end TopicTrial

end TopicClient.Scenario
