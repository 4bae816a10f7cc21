import TopicClient.Client.Polls

/-!
# Calls

A call goes out on the transport that is current when it is made. It returns when
its message has been sent and, for a request, its answer is there; or at the first
failure, at the end of its time, or when the client is closed. A request that
returns is pending no more, whatever the reason.
-/

namespace TopicClient

/-- The record of a request that nobody waits for and that failed. -/
def ClientError.record (uri : String) (e : ClientError) : Json :=
  Json.object [("name", .str "requestFailed"), ("uri", .str uri), ("message", .str e.message)]

namespace Correlator

/-- The caller of a request is gone. -/
def abandon (id : UInt64) (c : Correlator) : Correlator :=
  (c.cancel id).2.dropWaiter id

end Correlator

namespace Client
variable {H W : Type}

def updateCall (number : Nat) (f : PendingCall → PendingCall) (c : Client H W) : Client H W :=
  { c with calls := Assoc.modify number f c.calls }

def withCorrelator (f : Correlator → Correlator) (c : Client H W) : Client H W :=
  { c with core := { c.core with correlator := f c.core.correlator } }

/-- The call has no post any more, and withdraws the one it had. -/
def withdraw (call : PendingCall) (c : Client H W) : Step H W :=
  match call.post with
  | some key => ({ c with posts := Assoc.erase key c.posts }, [.withdrew key])
  | none => (c, [])

/-- What is recorded of a call that returns. -/
def recordsOf (call : PendingCall) : Except ClientError Json → List ClientEffect
  | .ok _ => []
  | .error e => (call.reportedAs.map fun uri => .recorded .error (e.record uri)).toList

/-- A call returns. -/
def finish (number : Nat) (result : Except ClientError Json) (c : Client H W) : Step H W :=
  match Assoc.find? number c.calls with
  | none => (c, [])
  | some call =>
    let c := { c with calls := Assoc.erase number c.calls }
    let c := c.withCorrelator fun k =>
      match call.id with
      | some id => k.abandon id
      | none => k
    (c.withdraw call).andThen fun c => (c, recordsOf call result ++ [.returned number result])

def markSent (number : Nat) (c : Client H W) : Client H W :=
  c.updateCall number fun call => { call with sent := true }

/-- What an effect of the socket means to the client. -/
def onEffect (e : SocketEffect Tag) (c : Client H W) : Step H W :=
  match e with
  | .dial => (c, [.dial])
  | .wrote frame => (c, [.wrote frame.text])
  | .pinged token => (c, [.wrote (c.pack (.ping token))])
  | .saidGoodbye => (c, [.saidGoodbye])
  | .published status => ({ c with statuses := c.statuses ++ [status] }, [])
  | .settled none _ => (c, [])
  | .settled (some number) none => (c.markSent number, [])
  | .settled (some number) (some error) => c.finish number (.error (.transport error))

def onSocket (now : Nat) (e : SocketEvent Tag) (c : Client H W) : Step H W :=
  match c.socket with
  | none => (c, [])
  | some socket =>
    let (socket, effects) := socket.step now e
    forEach onEffect effects { c with socket := some socket }

/-- Hands the message of a call to the active transport. -/
def transmit (now number : Nat) (m : Message) (c : Client H W) : Step H W :=
  match c.supervisor.active with
  | .socket => c.onSocket now (.enqueue ⟨some number, c.pack m⟩)
  | .polling =>
    (c.updateCall number fun call => { call with post := some (c.lastPost + 1) }).post
      (.call number) m

def begin (call : PendingCall) (c : Client H W) : Client H W :=
  let number := c.lastCall + 1
  { c with calls := c.calls ++ [(number, call)], lastCall := number }

/-- Makes a request. One that is reported has no caller; its failure is recorded
under its uri. -/
def request (now : Nat) (uri : String) (payload : Json) (reported : Bool) (c : Client H W) :
    Step H W :=
  let reportedAs := if reported then some uri else none
  if c.isClosed then (c.begin { id := none, reportedAs }).finish (c.lastCall + 1) (.error .closed)
  else
    let (m, id, correlator) := c.core.correlator.request uri payload
    let deadline := c.settings.requestTimeout?.map (now + ·)
    ((c.withCorrelator fun _ => correlator).begin { id := some id, deadline, reportedAs }).transmit
      now (c.lastCall + 1) m

/-- Sends metadata. -/
def describe (now : Nat) (metadata : Metadata) (c : Client H W) : Step H W :=
  let d := c.begin { id := none }
  if c.isClosed then d.finish d.lastCall (.error .closed)
  else d.transmit now d.lastCall (.describe metadata)

/-- What a call returns for its message being sent and its answer being there. -/
def answer? (call : PendingCall) (c : Client H W) : Option (Except ClientError Json) :=
  if call.sent then
    match call.id with
    | none => some (.ok .null)
    | some id => (c.core.correlator.waiter? id).bind fun answer => answer.map Answer.result
  else none

/-- What a call returns, once it can return. Closing the client ends every request. -/
def result? (call : PendingCall) (c : Client H W) : Option (Except ClientError Json) :=
  c.answer? call <|>
    (if c.isClosed && call.id.isSome then some (.error .closed) else none)

/-- The call that waits for the answer to a request. -/
def callOf? (id : UInt64) (c : Client H W) : Option Nat :=
  (c.calls.find? fun e => e.2.id = some id).map Prod.fst

/-- A call that can return does. -/
def collect (number : Nat) (c : Client H W) : Step H W :=
  match (Assoc.find? number c.calls).bind fun call => c.result? call with
  | some result => c.finish number result
  | none => (c, [])

/-- The time of a request is over. -/
def expire (now number : Nat) (c : Client H W) : Step H W :=
  match Assoc.find? number c.calls with
  | some ⟨some id, _, _, some deadline, _⟩ =>
    if deadline ≤ now then
      c.finish number (.error (.timeout id c.settings.requestTimeoutMs.toNat))
    else (c, [])
  | _ => (c, [])

end Client

end TopicClient
