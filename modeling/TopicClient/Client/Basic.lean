import TopicClient.Client.Core
import TopicClient.Transport.Socket
import TopicClient.Transport.Supervisor

/-!
# A client

A client joins the core, the supervisor and the socket. It holds what is under
way: posts that have no outcome yet, calls that have not returned, polls that wait
for their retry delay, and socket statuses that it has not looked at. What it
wants from the outside world it says in effects.
-/

namespace TopicClient

/-- What a post carries: the poll of a topic, the message of a call, or a message
that nobody waits for. -/
inductive Purpose where
  | poll (topic : String) (ts : Int64)
  | call (number : Nat)
  | besteffort
deriving DecidableEq, Repr

/-- A call that has not returned. A request has an id and needs an answer; metadata
only has to be sent. -/
structure PendingCall where
  id : Option UInt64
  sent : Bool := false
  post : Option Nat := none
  deadline : Option Nat := none
  reportedAs : Option String := none
deriving DecidableEq, Repr

/-- Frames of calls carry the number of the call. -/
abbrev Tag := Option Nat

/-- What a client wants from the outside world, and what it tells it: that a call has
got its answer, and what a call returned. -/
inductive ClientEffect where
  | dial
  | wrote (text : String)
  | saidGoodbye
  | posted (key : Nat) (text : String)
  | withdrew (key : Nat)
  | recorded (grade : Grade) (record : Json)
  | changed (change : TransportChange)
  | answered (call : Nat)
  | returned (call : Nat) (result : Except ClientError Json)

structure Client (H W : Type) where
  settings : Settings
  core : Core H W
  supervisor : Supervisor
  socket : Option (Socket Tag)
  statuses : List ConnectionStatus := []
  calls : List (Nat × PendingCall) := []
  lastCall : Nat := 0
  posts : List (Nat × Purpose) := []
  lastPost : Nat := 0
  retries : List Nat := []

namespace Client
variable {H W : Type}

/-- A client before anything has happened. It has a socket unless polling is forced. -/
def start (settings : Settings) (surroundings : W) (now : Nat) : Client H W :=
  { settings
    core :=
      { version := settings.protocol
        registry := { track := settings.trackChanges }
        surroundings }
    supervisor := { hasSocket := !settings.forcePolling }
    socket := if settings.forcePolling then none else some (.start settings.socket now) }

def isClosed (c : Client H W) : Bool := c.core.closed

def pendingRequests (c : Client H W) : Nat := c.core.correlator.pendingCount

def topics (c : Client H W) : List String := c.core.registry.names

def snapshot? (topic : String) (c : Client H W) : Option Snapshot :=
  c.core.registry.snapshot? topic

def pack (m : Message) (c : Client H W) : String := Wire.pack c.core.version m

/-- The topics with a poll under way. -/
def polled (c : Client H W) : List String :=
  c.posts.filterMap fun
    | (_, .poll topic _) => some topic
    | _ => none

end Client

end TopicClient
