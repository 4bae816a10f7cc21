import TopicClient.Settings.Basic

/-!
# Settings as documents

Settings are written as an object in a fixed order, without an absent option.
They are read as a record in which every missing field takes its default.
-/

namespace TopicClient

open Json Json.Draft

def wordJson (n : UInt64) : Json := Json.nat n.toNat

namespace GiveUpSettings

def document (s : GiveUpSettings) : Json :=
  .obj [("policy", .str s.policy.name), ("afterAttempts", Json.nat s.afterAttempts.toNat)]

def policy? (d : Draft) : Option GiveUpPolicy :=
  d.variant?.bind GiveUpPolicy.ofName?

def ofDraft? (d : Draft) : Option GiveUpSettings := do
  match ← d.fields? ["policy", "afterAttempts"] with
  | [policy, after] =>
    let base : GiveUpSettings := {}
    some {
      policy := ← fieldOr base.policy policy? policy
      afterAttempts := ← fieldOr base.afterAttempts uint32? after }
  | _ => none

end GiveUpSettings

namespace SocketSettings

def document (s : SocketSettings) : Json :=
  .obj [("pingIntervalMs", wordJson s.pingIntervalMs),
    ("healthyPingIntervalMs", wordJson s.healthyPingIntervalMs),
    ("pongTimeoutMs", wordJson s.pongTimeoutMs),
    ("connectTimeoutMs", wordJson s.connectTimeoutMs),
    ("reconnectUnitMs", wordJson s.reconnectUnitMs),
    ("reconnectCap", Json.nat s.reconnectCap.toNat),
    ("giveUp", s.giveUp.document)]

def ofDraft? (d : Draft) : Option SocketSettings := do
  match ← d.fields? ["pingIntervalMs", "healthyPingIntervalMs", "pongTimeoutMs",
      "connectTimeoutMs", "reconnectUnitMs", "reconnectCap", "giveUp"] with
  | [ping, healthyPing, pong, connect, unit, cap, giveUp] =>
    let base : SocketSettings := {}
    some {
      pingIntervalMs := ← fieldOr base.pingIntervalMs uint64? ping
      healthyPingIntervalMs := ← fieldOr base.healthyPingIntervalMs uint64? healthyPing
      pongTimeoutMs := ← fieldOr base.pongTimeoutMs uint64? pong
      connectTimeoutMs := ← fieldOr base.connectTimeoutMs uint64? connect
      reconnectUnitMs := ← fieldOr base.reconnectUnitMs uint64? unit
      reconnectCap := ← fieldOr base.reconnectCap uint32? cap
      giveUp := ← fieldOr base.giveUp GiveUpSettings.ofDraft? giveUp }
  | _ => none

end SocketSettings

namespace PollingSettings

def document (s : PollingSettings) : Json :=
  .obj [("retryDelayMs", wordJson s.retryDelayMs)]

def ofDraft? (d : Draft) : Option PollingSettings := do
  match ← d.fields? ["retryDelayMs"] with
  | [retry] =>
    let base : PollingSettings := {}
    some { retryDelayMs := ← fieldOr base.retryDelayMs uint64? retry }
  | _ => none

end PollingSettings

namespace Settings

/-- All options in their fixed order. -/
def document (s : Settings) : Json :=
  .obj ([("socketUrl", .str s.socketUrl), ("pollingUrl", .str s.pollingUrl)] ++
    Wire.field "diagnosticsUrl" .str s.diagnosticsUrl ++
    [("protocol", .str s.protocol.name),
      ("forcePolling", .bool s.forcePolling),
      ("trackChanges", .bool s.trackChanges),
      ("requestTimeoutMs", wordJson s.requestTimeoutMs),
      ("logTransportChanges", .bool s.logTransportChanges),
      ("logLevel", .str s.logLevel),
      ("socket", s.socket.document),
      ("polling", s.polling.document)])

/-- The settings as a value, names ascending. -/
def toJson (s : Settings) : Json := s.document.sorted

def text (s : Settings) : String := s.document.text

def version? (d : Draft) : Option Version :=
  d.variant?.bind Version.ofName?

def ofDraft? (d : Draft) : Option Settings := do
  match ← d.fields? ["socketUrl", "pollingUrl", "diagnosticsUrl", "protocol",
      "forcePolling", "trackChanges", "requestTimeoutMs", "logTransportChanges",
      "logLevel", "socket", "polling"] with
  | [socketUrl, pollingUrl, diagnosticsUrl, protocol, forcePolling, trackChanges,
      requestTimeout, logChanges, logLevel, socket, polling] =>
    let base : Settings := {}
    some {
      socketUrl := ← fieldOr base.socketUrl string? socketUrl
      pollingUrl := ← fieldOr base.pollingUrl string? pollingUrl
      diagnosticsUrl := ← fieldOption string? diagnosticsUrl
      protocol := ← fieldOr base.protocol version? protocol
      forcePolling := ← fieldOr base.forcePolling bool? forcePolling
      trackChanges := ← fieldOr base.trackChanges bool? trackChanges
      requestTimeoutMs := ← fieldOr base.requestTimeoutMs uint64? requestTimeout
      logTransportChanges := ← fieldOr base.logTransportChanges bool? logChanges
      logLevel := ← fieldOr base.logLevel string? logLevel
      socket := ← fieldOr base.socket SocketSettings.ofDraft? socket
      polling := ← fieldOr base.polling PollingSettings.ofDraft? polling }
  | _ => none

def ofJson? (v : Json) : Option Settings := ofDraft? (Draft.ofJson v)

def parse? (text : String) : Option Settings :=
  (Draft.parse? text.toList).bind ofDraft?

end Settings

end TopicClient
