import TopicClient.Scenario.SocketTrial
import TopicClient.Scenario.Turn
import TopicClient.Text.Lossy

/-!
# Scripts

The acts of a script against a client and its server, and what each one results
in. The tasks of the client have no turn during an act: a call that the script makes
waits for its turn, and what the server sends is on its way.
-/

namespace TopicClient.Scenario

/-- Which of the held posts to answer. -/
inductive Target where
  | body (text : String)
  | nth (n : Nat)
deriving DecidableEq, Repr

/-- How a post is answered, unless the connection breaks before the answer or cuts it
short. -/
structure Answering where
  target : Target
  status : Nat
  content : List UInt8
  broken : Bool
  cut : Bool
deriving DecidableEq, Repr

inductive Act where
  | subscribe (topic name : String) (reaction : Option Reaction)
  | unsubscribe (name : String) (topic : Option String)
  | request (name uri : String) (payload : Json)
  | detached (uri : String) (payload : Json)
  | describe (name : String) (metadata : Metadata)
  | answer (a : Answering)
  | advance (ms : Nat)
  | server (act : ServerAct)
  | snapshot (topic : String)
  | recall (n : Nat)
  | status
  | close
  | closed
  | all (acts : List Act)

inductive Result where
  | nothing
  | done (b : Bool)
  | snapshot (s : Option Snapshot)
  | recalled (s : Option Snapshot)
  | status (s : Option ConnectionStatus)

namespace Answering

/-- Some statuses go without a body, whatever is sent after them. -/
def isBare (a : Answering) : Bool := a.status = 101 || a.status = 204 || a.status = 304

/-- What an answer comes to. A status has three digits. One below 200 announces an
answer that does not come, but for 101, which ends the exchange. -/
def outcome (a : Answering) : Except TransportError String :=
  let isKnown := a.status = 101 || (200 ≤ a.status && a.status < 1000)
  if a.broken || !isKnown || (a.cut && !a.isBare) then .error (.network "connection closed")
  else Polling.outcome a.status (if a.isBare then "" else Text.lossy a.content)

/-- An answer that is cut short is read up to its end first. -/
def parts (a : Answering) : Nat := if a.cut && !a.isBare && !a.content.isEmpty then 2 else 1

def find? (a : Answering) (w : World) : Option Nat :=
  match a.target with
  | .body text => (w.heldInOrder.find? (·.2 = text)).map Prod.fst
  | .nth n => w.heldInOrder[n]?.map Prod.fst

end Answering

namespace World

def subscribe (topic : String) (h : Listener) (w : World) : World :=
  let (id, step) := w.client.subscribe listen topic h
  let w := w.absorb step
  let core := w.client.core
  let journal := core.surroundings
  { w with
    client :=
      { w.client with
        core := { core with surroundings := { journal with known := journal.known ++ [id] } } }
    names := Assoc.put h.name (topic, id) w.names }

def unsubscribe (name : String) (topic : Option String) (w : World) : Bool × World :=
  match Assoc.find? name w.names with
  | none => (false, w)
  | some (own, id) =>
    let (removed, client) := w.client.unsubscribe (topic.getD own) id
    (removed, { w with client }.rouse)

def put (job : Job) (w : World) : World := { w with ready := w.ready ++ [job] }

def send (sent : List Traffic) (w : World) : World := { w with traffic := w.traffic ++ sent }

mutual

def perform (w : World) : Act → Result × World
  | .subscribe topic name reaction => (.nothing, w.subscribe topic { name, topic, reaction })
  | .unsubscribe name topic =>
    let (removed, w) := w.unsubscribe name topic
    (.done removed, w)
  | .request name uri payload =>
    (.nothing, w.put (.begin (some name) (.request uri payload false)))
  | .detached uri payload => (.nothing, w.put (.begin none (.request uri payload true)))
  | .describe name metadata => (.nothing, w.put (.begin (some name) (.describe metadata)))
  | .answer a =>
    match a.find? w with
    | some key =>
      (.done true,
        { w with held := Assoc.erase key w.held }.send
          [.reply { key, outcome := a.outcome, parts := a.parts }])
    | none => (.done false, w)
  | .advance ms => (.nothing, { w with now := w.now + ms })
  | .server (.mode handshake) =>
    (.nothing, { w with server := { w.server with handshake } })
  | .server act =>
    let (done, arrival, server) := act.perform w.server
    (.done done, { w with server }.send (arrival.toList.map .arrival))
  | .snapshot topic =>
    let s := w.client.snapshot? topic
    (.snapshot s, { w with snapshots := w.snapshots ++ s.toList })
  | .recall n => (.recalled w.snapshots[n]?, w)
  | .status => (.status (w.client.socket.map Socket.status), w)
  | .close => (.nothing, w.step .close)
  | .closed => (.done w.client.isClosed, w)
  | .all acts => (.nothing, w.performAll acts)
termination_by structural a => a

/-- Acts back to back. -/
def performAll (w : World) : List Act → World
  | [] => w
  | a :: acts => (w.perform a).2.performAll acts
termination_by structural acts => acts

end

end World

end TopicClient.Scenario
