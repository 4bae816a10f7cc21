import TopicClient.Client.Step
import TopicClient.Scenario.Line
import TopicClient.Scenario.Listener

/-!
# A client and its server

A client against a scripted server, under a clock that moves only by the script.
The server holds every post until the script answers it; out of reach, every post
fails at once.

The client works in tasks that take turns: whatever gives a task something to do
puts it at the end of the queue, unless it waits there already. What the script
sends is on its way until the client looks for it.
-/

namespace TopicClient.Scenario

inductive Task where
  | outbox
  | socket
  | statuses
  | retry
  | call (number : Nat)
  | post (key : Nat)
deriving DecidableEq, Repr

/-- The answer to a post; an answer in parts is read in as many turns. -/
structure Reply where
  key : Nat
  outcome : Except TransportError String
  parts : Nat := 1

/-- What waits for its turn: a call to be made, an answer to be read, or a task. -/
inductive Job where
  | begin (name : Option String) (call : ClientEvent Listener)
  | read (reply : Reply)
  | task (t : Task)

/-- What the script has sent and the client has not looked for. -/
inductive Traffic where
  | arrival (a : Arrival)
  | reply (r : Reply)

structure World where
  client : Client Listener Journal
  server : Server
  now : Nat := 0
  fired : Nat := 0
  ready : List Job := []
  traffic : List Traffic := []
  line : List Arrival := []
  outcomes : List (Nat × Except TransportError String) := []
  held : List (Nat × String) := []
  names : List (String × String × HandlerId) := []
  callers : List (Nat × String) := []
  snapshots : List Snapshot := []
  posts : List String := []
  frames : List Sight := []
  changes : List TransportChange := []
  records : List (Grade × Json) := []
  done : List (String × Except ClientError Json) := []

namespace World

def waits (t : Task) (w : World) : Bool :=
  w.ready.any fun
    | .task u => t = u
    | _ => false

def wake (t : Task) (w : World) : World :=
  if w.waits t then w else { w with ready := w.ready ++ [.task t] }

/-- The task that waits for a post. -/
def owner (key : Nat) (w : World) : Task :=
  match Assoc.find? key w.client.posts with
  | some (.call number) => .call number
  | _ => .post key

/-- A post has come to an end. -/
def conclude (key : Nat) (outcome : Except TransportError String) (w : World) : World :=
  { w with outcomes := w.outcomes ++ [(key, outcome)] }.wake (w.owner key)

def observe (w : World) : ClientEffect → World
  | .dial =>
    if w.server.reachable then
      { w with traffic := w.traffic ++ w.server.answer?.toList.map .arrival }
    else { w with line := w.line ++ w.server.answer?.toList }
  | .wrote text => { w with frames := w.frames ++ w.server.sees (.text text) }
  | .saidGoodbye => { w with frames := w.frames ++ w.server.sees .goodbye }
  | .posted key text =>
    if w.server.reachable then
      { w with held := w.held ++ [(key, text)], posts := w.posts ++ [text] }
    else w.conclude key (.error (.network "out of reach"))
  | .withdrew key =>
    { w with held := Assoc.erase key w.held, outcomes := Assoc.erase key w.outcomes }
  | .recorded grade record => { w with records := w.records ++ [(grade, record)] }
  | .changed change => { w with changes := w.changes ++ [change] }
  | .answered call => w.wake (.call call)
  | .returned call result =>
    match Assoc.find? call w.callers with
    | some name => { w with done := w.done ++ [(name, result)] }
    | none => w

def socketNext? (w : World) : Option (Occurrence Tag × List Arrival × Server) :=
  w.client.socket.bind fun socket =>
    if w.client.isClosed && socket.phase ≠ .stopped then some (.event .cancel, w.line, w.server)
    else w.server.next? w.fired w.line socket

/-- The tasks that have something to do by the state of the client. -/
def enabled (w : World) : List Task :=
  let c := w.client
  let queues :=
    if c.isClosed then []
    else
      (if c.core.outbox.isEmpty then [] else [.outbox]) ++
        (if c.statuses.isEmpty then [] else [.statuses])
  let calls := c.calls.filter fun e => (c.result? e.2).isSome
  (if w.socketNext?.isSome then [.socket] else []) ++ queues ++
    calls.map fun e => .call e.1

def rouse (w : World) : World := w.enabled.foldl (fun w t => w.wake t) w

/-- Takes over the client after a step. The server may see that it has lost it. -/
def absorb (s : Client.Step Listener Journal) (w : World) : World :=
  let w := s.2.foldl observe { w with client := s.1 }
  let w := if w.client.socket.any Socket.isConnected then w else { w with server := w.server.alone }
  w.rouse

def step (e : ClientEvent Listener) (w : World) : World :=
  w.absorb (w.client.step listen w.now e)

def start (settings : Settings) (server : Server) : World :=
  { client := .start settings {} 0, server : World }.rouse

/-- The posts held, by the order of their bodies. -/
def heldInOrder (w : World) : List (Nat × String) :=
  w.held.mergeSort fun a b => a.2 ≤ b.2

/-- What is reported counts from the last report on. -/
def cleared (w : World) : World :=
  let core := w.client.core
  { w with
    client :=
      { w.client with
        core := { core with surroundings := { core.surroundings with entries := [] } } }
    posts := []
    frames := []
    changes := []
    records := []
    done := [] }

end World

end TopicClient.Scenario
