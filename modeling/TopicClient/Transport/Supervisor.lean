import TopicClient.Notice
import TopicClient.Transport.Polling
import TopicClient.Transport.Status

/-!
# Choosing the transport

Polling carries the traffic until the socket has answered a ping, and again as
soon as its connection is lost. While the socket carries it, polling is stopped.
-/

namespace TopicClient

inductive TransportKind where
  | socket
  | polling
deriving DecidableEq, Repr, Inhabited

def TransportKind.name : TransportKind → String
  | socket => "socket"
  | polling => "polling"

/-- What observers are told of a status. -/
structure TransportChange where
  previous : TransportKind
  current : TransportKind
  status : ConnectionStatus
deriving Repr

def TransportChange.document (c : TransportChange) : Json :=
  .obj [("previous", .str c.previous.name), ("current", .str c.current.name),
    ("status", c.status.document)]

structure Supervisor where
  hasSocket : Bool
  onSocket : Bool := false
  polling : Polling := {}
deriving Repr

namespace Supervisor

def current (s : Supervisor) : TransportKind :=
  if s.onSocket then .socket else .polling

/-- The transport that sends go to. -/
def active (s : Supervisor) : TransportKind :=
  if s.onSocket && s.hasSocket then .socket else .polling

structure StatusOutcome where
  change : TransportChange
  resubscribe : Bool
  supervisor : Supervisor

/-- A switch asks for the subscriptions to be sent again, on the new transport. -/
def onStatus (status : ConnectionStatus) (s : Supervisor) : StatusOutcome :=
  let (switched, t) :=
    if status.connected && s.hasSocket then
      if s.onSocket then (false, s)
      else (true, { s with onSocket := true, polling := s.polling.stop })
    else if s.onSocket then
      (true, { s with onSocket := false, polling := s.polling.resume })
    else (false, s)
  ⟨⟨s.current, t.current, status⟩, switched, t⟩

def StatusOutcome.notices (o : StatusOutcome) : List Notice :=
  if o.change.previous = o.change.current then [] else [.transportChanged]

def close (s : Supervisor) : Supervisor :=
  { s with onSocket := false, polling := s.polling.stop }

end Supervisor

end TopicClient
