import TopicClient.Correlator
import TopicClient.Registry
import TopicClient.Wire.Payload

/-!
# What both transports share

The core of a client dispatches inbound messages by kind: publishes go to the
registry and on to the handlers, responses to the waiting requests, pings are
answered through the outbox, and whether there was a pong is reported back. All
other kinds are dropped.

Handlers may do what any user of the client may do. A `Behaviour` says what the
call of a handler does to the core and to its surroundings `W`.
-/

namespace TopicClient

structure Core (H W : Type) where
  version : Version
  registry : Registry H
  surroundings : W
  correlator : Correlator := {}
  outbox : List Message := []
  closed : Bool := false

/-- What the call of a handler does, and how it fails if it does. -/
abbrev Behaviour (H W : Type) := Call H (Core H W)

/-- The core after some input, with what happened on the way: the calls of handlers,
the diagnostic records of those that failed, the requests that got their answers, and
whether there was a pong. -/
structure Inbound (H W : Type) where
  core : Core H W
  calls : List (HandlerId × TopicEvent) := []
  records : List Json := []
  answered : List UInt64 := []
  pong : Bool := false

namespace Inbound
variable {H W : Type}

def call (b : Behaviour H W) : Call H (Inbound H W) := fun id h event i =>
  let (panic, core) := b id h event i.core
  (panic, { i with core, calls := i.calls ++ [(id, event)] })

def report (event : TopicEvent) (panic : Panic) (i : Inbound H W) : Inbound H W :=
  { i with records := i.records ++ [panic.record event.topic] }

def deliver (b : Behaviour H W) (d : Delivery H) (i : Inbound H W) : Inbound H W :=
  (d.dispatch (call b) report i).2

def publish (b : Behaviour H W) (now : Nat) (m : Message) (i : Inbound H W) : Inbound H W :=
  let p := i.core.registry.publish now m
  let i := { i with core := { i.core with registry := p.registry } }
  match p.outcome with
  | .delivered d => i.deliver b d
  | _ => i

def respond (m : Message) (i : Inbound H W) : Inbound H W :=
  let (answered, correlator) := i.core.correlator.resolve m
  { i with
    core := { i.core with correlator }
    answered := if answered then i.answered ++ m.id.toList else i.answered }

/-- Dispatches one message by its kind. -/
def accept (b : Behaviour H W) (now : Nat) (i : Inbound H W) (m : Message) : Inbound H W :=
  match m.kind with
  | .publish => i.publish b now m
  | .response => i.respond m
  | .ping => { i with core := { i.core with outbox := i.core.outbox ++ [.pong] } }
  | .pong => { i with pong := true }
  | _ => i

end Inbound

namespace Core
variable {H W : Type}

/-- Dispatches all messages of a payload, in order. -/
def onPayload (b : Behaviour H W) (now : Nat) (text : String) (c : Core H W) : Inbound H W :=
  (Wire.unpack c.version text).result.foldl (Inbound.accept b now) { core := c }

/-- Registers a handler. A new topic is announced; a handler that joins one is told
its state at once. -/
def subscribe (b : Behaviour H W) (topic : String) (h : H) (c : Core H W) :
    HandlerId × Inbound H W :=
  let changed := c.registry.add topic h
  let (id, replay) := changed.result
  let i : Inbound H W :=
    { core :=
      { c with
        registry := changed.registry
        outbox := c.outbox ++ changed.announcement.toList } }
  match replay with
  | some d => (id, i.deliver b d)
  | none => (id, i)

def unsubscribe (topic : String) (id : HandlerId) (c : Core H W) : Bool × Core H W :=
  let changed := c.registry.remove topic id
  (changed.result,
    { c with
      registry := changed.registry
      outbox := c.outbox ++ changed.announcement.toList })

/-- Announces all topics again, if there are any. -/
def resubscribe (c : Core H W) : Core H W :=
  if c.registry.topics.isEmpty then c
  else { c with outbox := c.outbox ++ [c.registry.subscribeMessage] }

/-- Closing gives up every pending request. -/
def close (c : Core H W) : Core H W :=
  { c with closed := true, correlator := c.correlator.failAll }

end Core

end TopicClient
