import TopicClient.Wire.Header

/-!
# Settings

Every option of a client with its default, and the rules that a client needs to
run. Durations are in milliseconds.
-/

namespace TopicClient

/-- What to do once so many attempts have failed without ever becoming healthy. -/
inductive GiveUpPolicy where
  | never
  | stop
  | notify
deriving DecidableEq, Repr, Inhabited

namespace GiveUpPolicy

def name : GiveUpPolicy → String
  | never => "never"
  | stop => "stop"
  | notify => "notify"

def ofName? : String → Option GiveUpPolicy
  | "never" => some never
  | "stop" => some stop
  | "notify" => some notify
  | _ => none

end GiveUpPolicy

structure GiveUpSettings where
  policy : GiveUpPolicy := .never
  afterAttempts : UInt32 := 10
deriving DecidableEq, Repr, Inhabited

structure SocketSettings where
  pingIntervalMs : UInt64 := 4000
  healthyPingIntervalMs : UInt64 := 16000
  pongTimeoutMs : UInt64 := 16000
  connectTimeoutMs : UInt64 := 10000
  reconnectUnitMs : UInt64 := 1000
  reconnectCap : UInt32 := 12
  giveUp : GiveUpSettings := {}
deriving DecidableEq, Repr, Inhabited

structure PollingSettings where
  retryDelayMs : UInt64 := 4000
deriving DecidableEq, Repr, Inhabited

structure Settings where
  socketUrl : String := "ws://127.0.0.1:8080/api"
  pollingUrl : String := "http://127.0.0.1:8080/pooling"
  diagnosticsUrl : Option String := none
  protocol : Version := .v2
  forcePolling : Bool := false
  trackChanges : Bool := true
  requestTimeoutMs : UInt64 := 60000
  logTransportChanges : Bool := false
  logLevel : String := "warn"
  socket : SocketSettings := {}
  polling : PollingSettings := {}
deriving DecidableEq, Repr, Inhabited

namespace Settings

/-- What makes settings unfit to run with. -/
inductive Fault where
  | noPollingUrl
  | noSocketUrl
  | capTooGreat
  | notPositive (option : String)
deriving DecidableEq, Repr

def Fault.message : Fault → String
  | noPollingUrl => "pollingUrl must be set"
  | noSocketUrl => "socketUrl must be set unless forcePolling is on"
  | capTooGreat => "socket.reconnectCap must be at most 31"
  | notPositive option => option ++ " must be positive"

def positiveOptions (s : SocketSettings) : List (String × UInt64) :=
  [("socket.pingIntervalMs", s.pingIntervalMs),
    ("socket.healthyPingIntervalMs", s.healthyPingIntervalMs),
    ("socket.pongTimeoutMs", s.pongTimeoutMs),
    ("socket.connectTimeoutMs", s.connectTimeoutMs)]

/-- The first fault, in the order of the rules. -/
def fault? (s : Settings) : Option Fault :=
  if s.pollingUrl = "" then some .noPollingUrl
  else if !s.forcePolling && s.socketUrl = "" then some .noSocketUrl
  else if 31 < s.socket.reconnectCap then some .capTooGreat
  else ((positiveOptions s.socket).find? fun e => e.2 = 0).map fun e => .notPositive e.1

/-- No timeout at all if the option is zero. -/
def requestTimeout? (s : Settings) : Option Nat :=
  if s.requestTimeoutMs = 0 then none else some s.requestTimeoutMs.toNat

end Settings

inductive SettingsError where
  | unreadable
  | notJson
  | wrongShape
  | invalid (fault : Settings.Fault)
deriving DecidableEq, Repr

/-- The text of an invalid value. The other causes carry texts of the system. -/
def SettingsError.message : SettingsError → String
  | unreadable => "failed to read settings file"
  | notJson | wrongShape => "failed to parse settings JSON"
  | invalid fault => "invalid settings value: " ++ fault.message

end TopicClient
