import TopicClient.Error
import TopicClient.Transport.Backoff
import TopicClient.Transport.Status

/-!
# The socket

A socket dials, keeps an open connection alive with pings, and dials again after
a growing delay when an attempt has ended. It is healthy from the first pong of a
connection to the end of that connection. Frames wait in a queue, in order, until
a connection is open; the queue outlives connections.

The socket acts only through `step`, which takes an event at a time, in
milliseconds, and returns what is to be done in the outside world. An event that
does not fit the phase, or a timer that is not due, changes nothing.
-/

namespace TopicClient

/-- The codes that a server may close a connection with. -/
def isCloseCode (code : Nat) : Bool :=
  (1000 ≤ code && code ≤ 1003) || (1007 ≤ code && code ≤ 1013) || (3000 ≤ code && code ≤ 4999)

/-- What the log tells of a close frame; any other code violates the protocol. -/
def Detail.ofClose : Option (Nat × String) → Detail
  | none => {}
  | some (code, reason) =>
    if isCloseCode code then { code := some code, reason := some reason }
    else { code := some 1002, reason := some "Protocol violation" }

/-- Control frames carry at most this many bytes. -/
def controlLimit : Nat := 125

/-- A text to be written, with the tag under which its result is reported. -/
structure Frame (T : Type) where
  tag : T
  text : String
deriving DecidableEq, Repr

/-- The timers of an open connection. -/
structure Connection where
  healthy : Bool := false
  interval : Nat
  token : UInt64 := 0
  nextPing : Nat
  pongDeadline : Option Nat
deriving DecidableEq, Repr

inductive Phase where
  | starting
  | dialing (deadline : Nat)
  | connected (c : Connection)
  | waiting (deadline : Nat)
  | stopped
deriving DecidableEq, Repr, Inhabited

structure Socket (T : Type) where
  settings : SocketSettings
  status : ConnectionStatus
  state : SocketState := .connecting
  phase : Phase := .starting
  failures : UInt32 := 0
  reported : Bool := false
  queue : List (Frame T) := []
deriving Repr

inductive SocketEvent (T : Type) where
  | enqueue (frame : Frame T)
  | attempt
  | dialed
  | dialFailed (reason : String)
  | dialTimedOut
  | payload (isPong : Bool)
  | write (fault : Option String)
  | pingDue (fault : Option String)
  | pongOverdue
  | serverClosed (frame : Option (Nat × String))
  | readFailed (reason : String)
  | cancel
deriving Repr

/-- What a close frame of the server comes to: one that is too long breaks the
connection. The code takes two bytes. -/
def SocketEvent.ofClose {T : Type} (frame : Option (Nat × String)) : SocketEvent T :=
  if frame.any fun f => controlLimit < 2 + f.2.utf8ByteSize then .readFailed "frame too long"
  else .serverClosed frame

inductive SocketEffect (T : Type) where
  | dial
  | wrote (frame : Frame T)
  | pinged (token : UInt64)
  | saidGoodbye
  | settled (tag : T) (fault : Option TransportError)
  | published (status : ConnectionStatus)
deriving Repr

namespace Socket
variable {T : Type}

abbrev Step (T : Type) := Socket T × List (SocketEffect T)

def start (settings : SocketSettings) (now : Nat) : Socket T :=
  { settings, status := .start now }

/-- Why a socket that has stopped takes no frame. -/
def stopFault (s : Socket T) : TransportError :=
  match s.state with
  | .givenUp => .givenUp s.status.connects
  | _ => .closed

/-- The error of a frame that is refused; `none` if it would be queued. -/
def refusal? (s : Socket T) : Option TransportError :=
  if s.phase = .stopped then some s.stopFault else none

/-- The last step; the frames still queued fail. -/
def finish (final : SocketState) (s : Socket T) : Step T :=
  let t := { s with state := final, phase := .stopped }
  ({ t with queue := [] }, t.queue.map fun f => .settled f.tag (some t.stopFault))

def dial (now : Nat) (s : Socket T) : Step T :=
  ({ s with phase := .dialing (now + s.settings.connectTimeoutMs.toNat) }, [.dial])

/-- Begins the next attempt, unless the policy says to give up. -/
def attempt (now : Nat) (s : Socket T) : Step T :=
  let status := s.status.beginAttempt now
  let givingUp := status.note now "giveUp"
  let policy := s.settings.giveUp
  match giveUpAction policy.policy policy.afterAttempts status.connects status.success
    s.reported with
  | .proceed => { s with status }.dial now
  | .report =>
    let (t, effects) := { s with status := givingUp, reported := true }.dial now
    (t, .published givingUp :: effects)
  | .stop =>
    let (t, effects) := { s with status := givingUp }.finish .givenUp
    (t, .published givingUp :: effects)

/-- One more failure in a row; the count saturates. -/
def nextFailures (healthy : Bool) (failures : UInt32) : UInt32 :=
  let before := if healthy then 0 else failures
  if before = 4294967295 then before else before + 1

/-- The delay before the next attempt, in milliseconds. -/
def delay (s : Socket T) (failures : UInt32) : Nat :=
  (reconnectDelay failures (.ofMillis s.settings.reconnectUnitMs) s.settings.reconnectCap).toMillis

/-- Ends an attempt. A connection that was healthy makes earlier failures forgotten. -/
def retreat (now : Nat) (healthy : Bool) (s : Socket T) : Step T :=
  let status := s.status.markDisconnected
  let failures := nextFailures healthy s.failures
  ({ s with
      status
      failures
      state := .connecting
      phase := .waiting (now + s.delay failures) },
    [.published status])

/-- A fresh connection pings at once and has a limited time to answer. -/
def opened (now : Nat) (s : Socket T) : Socket T :=
  { s with
    status := s.status.markOpened now
    state := .openUnhealthy
    phase := .connected
      { interval := s.settings.pingIntervalMs.toNat
        nextPing := now
        pongDeadline := some (now + s.settings.pongTimeoutMs.toNat) } }

/-- A payload arrived. The first pong makes the connection healthy: it pings at the
slower pace from now on, and need not answer in time any more. -/
def received (now : Nat) (isPong : Bool) (c : Connection) (s : Socket T) : Step T :=
  match s.status.onMessage now isPong with
  | (true, status) =>
    let interval := s.settings.healthyPingIntervalMs.toNat
    ({ s with
        status
        state := .healthy
        phase := .connected
          { c with healthy := true, interval, nextPing := now + interval, pongDeadline := none } },
      [.published status])
  | (false, status) => ({ s with status }, [])

/-- Writes the first frame of the queue. If that fails, the connection ends. -/
def write (now : Nat) (fault : Option String) (c : Connection) (s : Socket T) : Step T :=
  match s.queue, fault with
  | [], _ => (s, [])
  | f :: rest, none => ({ s with queue := rest }, [.wrote f, .settled f.tag none])
  | f :: rest, some text =>
    let error := TransportError.write text
    let status := s.status.record now "sendError" { message := some error.message }
    let (t, effects) := { s with status, queue := rest }.retreat now c.healthy
    (t, .settled f.tag (some error) :: effects)

def ping (now : Nat) (fault : Option String) (c : Connection) (s : Socket T) : Step T :=
  let token := c.token + 1
  match fault with
  | none =>
    ({ s with phase := .connected { c with token, nextPing := now + c.interval } },
      [.pinged token])
  | some text =>
    let error := TransportError.ping text
    { s with status := s.status.record now "pingError" { message := some error.message } }.retreat
      now c.healthy

/-- The end of a connection for a reason that the log names. -/
def lost (now : Nat) (name : String) (detail : Detail) (healthy : Bool) (s : Socket T) : Step T :=
  { s with status := s.status.record now name detail }.retreat now healthy

/-- What the socket does on an event. -/
def step (now : Nat) (e : SocketEvent T) (s : Socket T) : Step T :=
  match e, s.phase with
  | .enqueue f, _ =>
    match s.refusal? with
    | some error => (s, [.settled f.tag (some error)])
    | none => ({ s with queue := s.queue ++ [f] }, [])
  | .attempt, .starting => s.attempt now
  | .attempt, .waiting deadline => if deadline ≤ now then s.attempt now else (s, [])
  | .dialed, .dialing _ => (s.opened now, [])
  | .dialFailed reason, .dialing _ => s.lost now "wsError" { message := some reason } false
  | .dialTimedOut, .dialing deadline =>
    if deadline ≤ now then s.lost now "connectTimeout" {} false else (s, [])
  | .payload isPong, .connected c => s.received now isPong c
  | .write fault, .connected c => s.write now fault c
  | .pingDue fault, .connected c => if c.nextPing ≤ now then s.ping now fault c else (s, [])
  | .pongOverdue, .connected c =>
    if c.pongDeadline.any (· ≤ now) then
      let (t, effects) := s.lost now "pongTimeout" {} c.healthy
      (t, .saidGoodbye :: effects)
    else (s, [])
  | .serverClosed frame, .connected c => s.lost now "close" (.ofClose frame) c.healthy
  | .readFailed reason, .connected c => s.lost now "wsError" { message := some reason } c.healthy
  | .cancel, .stopped => (s, [])
  | .cancel, .connected _ =>
    let (t, effects) := { s with status := s.status.markDisconnected }.finish .closed
    (t, .saidGoodbye :: effects)
  | .cancel, _ => s.finish .closed
  | _, _ => (s, [])

def isConnected (s : Socket T) : Bool :=
  match s.phase with
  | .connected _ => true
  | _ => false

/-- The events in order, each at its time. -/
def run (events : List (Nat × SocketEvent T)) (s : Socket T) : Step T :=
  match events with
  | [] => (s, [])
  | (now, e) :: rest =>
    let (t, effects) := s.step now e
    let (u, more) := t.run rest
    (u, effects ++ more)

/-- The timers that may be due, each with the event that it causes. -/
def timers (s : Socket T) : List (Nat × SocketEvent T) :=
  match s.phase with
  | .dialing deadline => [(deadline, .dialTimedOut)]
  | .waiting deadline => [(deadline, .attempt)]
  | .connected c =>
    (c.nextPing, .pingDue none) :: (c.pongDeadline.map fun d => (d, .pongOverdue)).toList
  | _ => []

end Socket

end TopicClient
