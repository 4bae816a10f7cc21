import TopicClient.Scenario.Line
import TopicClient.Wire.Payload

/-!
# A socket on its own

A socket and a scripted server, under a clock that moves only by the script. Each
step of the script is followed by everything that can happen without time
passing.
-/

namespace TopicClient.Scenario

/-- What a script does to the server's side of the connection. -/
inductive ServerAct where
  | mode (handshake : Handshake)
  | text (s : String)
  | bytes (content : ByteArray)
  | ping
  | close (frame : Option (Nat × String))
  | drop
  | deafen

namespace ServerAct

/-- Whether the act could be done, what arrives at the client, and the server after. -/
def perform (act : ServerAct) (s : Server) : Bool × Option Arrival × Server :=
  let sending (arrival : Option Arrival) : Bool × Option Arrival × Server :=
    let (done, arrival) := s.send arrival
    (done, arrival, s)
  match act with
  | .mode handshake => (true, none, { s with handshake })
  | .text t => sending (some (.text t))
  | .bytes content => sending ((String.fromUTF8? content).map .text)
  | .ping => sending none
  | .close frame => s.close frame
  | .drop => s.drop
  | .deafen =>
    let (done, s) := s.deafen
    (done, none, s)

end ServerAct

inductive SocketAct where
  | send (name : String) (m : Message)
  | advance (ms : Nat)
  | status
  | close
  | server (act : ServerAct)

inductive SocketResult where
  | nothing
  | queued
  | refused (e : TransportError)
  | done (b : Bool)
  | status (s : ConnectionStatus)

structure SocketTrial where
  version : Version
  socket : Socket String
  server : Server
  now : Nat := 0
  line : List Arrival := []
  pings : List Sight := []
  frames : List Sight := []
  changes : List ConnectionStatus := []
  done : List (String × Option TransportError) := []
  payloads : List String := []

namespace SocketTrial

def start (version : Version) (settings : SocketSettings) (server : Server) : SocketTrial :=
  { version, socket := .start settings 0, server }

def observe (t : SocketTrial) : SocketEffect String → SocketTrial
  | .dial => { t with line := t.line ++ t.server.answer?.toList }
  | .wrote f => { t with frames := t.frames ++ t.server.sees (.text f.text) }
  | .pinged token =>
    { t with pings := t.pings ++ t.server.sees (.text (Wire.pack t.version (.ping token))) }
  | .saidGoodbye => { t with frames := t.frames ++ t.server.sees .goodbye }
  | .settled name fault => { t with done := t.done ++ [(name, fault)] }
  | .published status => { t with changes := t.changes ++ [status] }

def step (e : SocketEvent String) (t : SocketTrial) : SocketTrial :=
  let (socket, effects) := t.socket.step t.now e
  let t := effects.foldl observe { t with socket }
  if socket.isConnected then t else { t with server := t.server.alone }

/-- A payload is kept, and reported as a pong if any of its messages is one. -/
def meet (t : SocketTrial) : Occurrence String → SocketTrial
  | .event e => t.step e
  | .payload text =>
    if t.socket.isConnected then
      let isPong := (Wire.unpack t.version text).result.any (·.kind = .pong)
      { t with payloads := t.payloads ++ [text] }.step (.payload isPong)
    else t

/-- The next thing that happens before time passes. -/
def next? (t : SocketTrial) : Option SocketTrial :=
  (t.server.next? t.now t.line t.socket).map fun (o, line, server) =>
    { t with line, server }.meet o

def settle (fuel : Nat) (t : SocketTrial) : SocketTrial :=
  match fuel, t.next? with
  | fuel + 1, some t => t.settle fuel
  | _, _ => t

def perform (act : SocketAct) (t : SocketTrial) : SocketResult × SocketTrial :=
  match act with
  | .send name m =>
    match t.socket.refusal? with
    | some e => (.refused e, t)
    | none => (.queued, t.step (.enqueue ⟨name, Wire.pack t.version m⟩))
  | .advance ms => (.nothing, { t with now := t.now + ms })
  | .status => (.status t.socket.status, t)
  | .close => (.nothing, t.step .cancel)
  | .server act =>
    let (ok, arrival, server) := act.perform t.server
    let t := { t with server }
    let result : SocketResult := match act with | .mode _ => .nothing | _ => .done ok
    (result, { t with line := t.line ++ arrival.toList })

/-- What is reported counts from the last report on. -/
def cleared (t : SocketTrial) : SocketTrial :=
  { t with pings := [], frames := [], changes := [], done := [], payloads := [] }

end SocketTrial

end TopicClient.Scenario
