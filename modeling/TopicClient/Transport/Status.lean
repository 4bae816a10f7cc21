import TopicClient.Json.Printer

/-!
# Connection status

The health and history of a socket. Three flags tell whether the socket was ever
healthy, is open, and has answered a ping on this connection; the log keeps the
last 256 events. Times are in milliseconds on one clock, and the times told by
events are 64-bit words that wrap. Payloads and attempts are counted in words of
64 and 32 bits, which wrap as well.
-/

namespace TopicClient

inductive SocketState where
  | connecting
  | openUnhealthy
  | healthy
  | givenUp
  | closed
deriving DecidableEq, Repr, Inhabited

def SocketState.name : SocketState → String
  | connecting => "connecting"
  | openUnhealthy => "openUnhealthy"
  | healthy => "healthy"
  | givenUp => "givenUp"
  | closed => "closed"

/-- What an event tells beside its name. -/
structure Detail where
  code : Option Nat := none
  reason : Option String := none
  message : Option String := none
deriving DecidableEq, Repr, Inhabited

structure StatusEvent where
  name : String
  sinceStart : UInt64
  sinceConnect : UInt64
  detail : Detail
deriving DecidableEq, Repr

structure ConnectionStatus where
  success : Bool := false
  opened : Bool := false
  connected : Bool := false
  messages : UInt64 := 0
  connects : UInt32 := 0
  retries : UInt32 := 0
  events : List StatusEvent := []
  startedAt : Nat := 0
  connectStartedAt : Nat := 0
deriving DecidableEq, Repr, Inhabited

namespace ConnectionStatus

/-- The log holds this many events. -/
def eventLimit : Nat := 256

def start (now : Nat) : ConnectionStatus := { startedAt := now, connectStartedAt := now }

/-- The oldest event gives way if the log is full. -/
def record (now : Nat) (name : String) (detail : Detail) (s : ConnectionStatus) :
    ConnectionStatus :=
  let kept := if s.events.length = eventLimit then s.events.drop 1 else s.events
  let since (start : Nat) : UInt64 := UInt64.ofNat (now - start)
  { s with events := kept ++ [⟨name, since s.startedAt, since s.connectStartedAt, detail⟩] }

def note (now : Nat) (name : String) (s : ConnectionStatus) : ConnectionStatus :=
  s.record now name {}

def beginAttempt (now : Nat) (s : ConnectionStatus) : ConnectionStatus :=
  { s with
    connects := s.connects + 1
    opened := false
    connected := false
    connectStartedAt := now }.note now "connect"

def markOpened (now : Nat) (s : ConnectionStatus) : ConnectionStatus :=
  { s with opened := true }.note now "open"

def markDisconnected (s : ConnectionStatus) : ConnectionStatus :=
  { s with opened := false, connected := false }

/-- Counts a payload. The first pong of a connection makes it healthy. -/
def onMessage (now : Nat) (isPong : Bool) (s : ConnectionStatus) : Bool × ConnectionStatus :=
  let counted := { s with messages := s.messages + 1 }
  if isPong && !s.connected then
    (true,
      { counted with connected := true, success := true, retries := s.connects }.note now "pong")
  else (false, counted)

def hasEvent (name : String) (s : ConnectionStatus) : Bool :=
  s.events.any (·.name = name)

def lastEvent? (s : ConnectionStatus) : Option StatusEvent := s.events.getLast?

end ConnectionStatus

def optionalMember {α : Type} (name : String) (value : α → Json) :
    Option α → List (String × Json)
  | none => []
  | some a => [(name, value a)]

def StatusEvent.document (e : StatusEvent) : Json :=
  .obj ([("name", .str e.name), ("sinceStartMs", Json.nat e.sinceStart.toNat),
      ("sinceConnectMs", Json.nat e.sinceConnect.toNat)] ++
    optionalMember "code" Json.nat e.detail.code ++
    optionalMember "reason" .str e.detail.reason ++
    optionalMember "message" .str e.detail.message)

def ConnectionStatus.document (s : ConnectionStatus) : Json :=
  .obj [("success", .bool s.success), ("opened", .bool s.opened),
    ("connected", .bool s.connected), ("messages", Json.nat s.messages.toNat),
    ("connects", Json.nat s.connects.toNat), ("retries", Json.nat s.retries.toNat),
    ("events", .arr (s.events.map StatusEvent.document))]

end TopicClient
