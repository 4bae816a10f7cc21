import TopicClient.Client.Calls

/-!
# The steps of a client

Everything that can happen to a client is an event; `step` says what the client
does on it. Inputs come from its users, from the server and from timers. The
outbox and the statuses of the socket are looked at one at a time, at moments that
are events of their own, and no longer once the client is closed. A step is what one
worker does if nothing comes in between: a switch of the transport is announced at once,
and polling is armed as soon as it is found to go on. `Workers` takes the latter apart.
-/

namespace TopicClient

inductive ClientEvent (H : Type) where
  | subscribe (topic : String) (h : H)
  | unsubscribe (topic : String) (id : HandlerId)
  | request (uri : String) (payload : Json) (reported : Bool)
  | describe (metadata : Metadata)
  | close
  | pump
  | look
  | payload (text : String)
  | socket (e : SocketEvent Tag)
  | outcome (key : Nat) (result : Except TransportError String)
  | retry
  | expire (call : Nat)
  | collect (call : Nat)

namespace Client
variable {H W : Type}

/-- What closing does outside the core: both transports are given up, and no failed
poll is tried again. Every request can return now. -/
def shut (c : Client H W) : Client H W :=
  { c with supervisor := c.supervisor.close, retries := [] }

def close (c : Client H W) : Client H W := { c with core := c.core.close }.shut

/-- Takes over the core after some input. A handler may have closed the client. -/
def absorb (i : Inbound H W) (c : Client H W) : Step H W :=
  let d := { c with core := i.core }
  ((if i.core.closed && !c.isClosed then d.shut else d),
    i.records.map (ClientEffect.recorded .error) ++
      (i.answered.filterMap c.callOf?).map ClientEffect.answered)

def subscribe (b : Behaviour H W) (topic : String) (h : H) (c : Client H W) :
    HandlerId × Step H W :=
  let (id, i) := c.core.subscribe b topic h
  (id, c.absorb i)

def unsubscribe (topic : String) (id : HandlerId) (c : Client H W) : Bool × Client H W :=
  let (removed, core) := c.core.unsubscribe topic id
  (removed, { c with core })

/-- The body of an answered post is a payload, unless it is empty. -/
def deliver (b : Behaviour H W) (now : Nat) (body : String) (c : Client H W) : Step H W :=
  if body = "" then (c, []) else c.absorb (c.core.onPayload b now body)

/-- The first message of the outbox goes out. Pongs go to the socket, where pings come
from; everything else goes to the current transport. -/
def pump (now : Nat) (c : Client H W) : Step H W :=
  if c.isClosed then (c, [])
  else
    match c.core.outbox with
    | [] => (c, [])
    | m :: rest =>
      let c := { c with core := { c.core with outbox := rest } }
      if c.socket.isSome && (m.kind = .pong || c.supervisor.onSocket) then
        c.onSocket now (.enqueue ⟨none, c.pack m⟩)
      else
        match m.kind with
        | .subscribe => c.arm (m.subscriptions.getD ⟨[]⟩)
        | _ => c.post .besteffort m

def changeRecord (change : TransportChange) : ClientEffect :=
  .recorded (if change.status.connected then .info else .error) change.document.sorted

/-- The first status of the socket reaches the supervisor and the observers. -/
def look (c : Client H W) : Step H W :=
  if c.isClosed then (c, [])
  else
    match c.statuses with
    | [] => (c, [])
    | status :: rest =>
      let o := c.supervisor.onStatus status
      let core := if o.resubscribe then c.core.resubscribe else c.core
      let records := if c.settings.logTransportChanges then [changeRecord o.change] else []
      ({ c with core, supervisor := o.supervisor, statuses := rest },
        records ++ [.changed o.change])

/-- A payload counts only while the socket is open. -/
def payload (b : Behaviour H W) (now : Nat) (text : String) (c : Client H W) : Step H W :=
  match c.socket.map Socket.phase with
  | some (.connected _) =>
    let i := c.core.onPayload b now text
    (c.absorb i).andThen (onSocket now (.payload i.pong))
  | _ => (c, [])

/-- A poll has ended. -/
def pollOutcome (b : Behaviour H W) (now : Nat) (topic : String)
    (result : Except TransportError String) (c : Client H W) : Step H W :=
  let c := c.withPolling (Polling.finish topic)
  match result with
  | .ok body => (c.deliver b now body).andThen rearm
  | .error e =>
    match Polling.next (.error e) with
    | .afterDelay =>
      if c.isClosed then (c, [])
      else ({ c with retries := c.retries ++ [now + c.settings.polling.retryDelayMs.toNat] }, [])
    | _ => (c, [])

/-- The post of a call has ended. -/
def callOutcome (b : Behaviour H W) (now number : Nat)
    (result : Except TransportError String) (c : Client H W) : Step H W :=
  let c := c.updateCall number fun call => { call with post := none }
  match result with
  | .ok body => (c.deliver b now body).andThen fun c => (c.markSent number, [])
  | .error e => c.finish number (.error (.transport e))

def outcome (b : Behaviour H W) (now key : Nat) (result : Except TransportError String)
    (c : Client H W) : Step H W :=
  let d := { c with posts := Assoc.erase key c.posts }
  match Assoc.find? key c.posts, result with
  | some (.poll topic _), _ => d.pollOutcome b now topic result
  | some (.call number), _ => d.callOutcome b now number result
  | some .besteffort, .ok body => d.deliver b now body
  | some .besteffort, .error _ => (d, [])
  | none, _ => (c, [])

/-- What a client does on an event. -/
def step (b : Behaviour H W) (now : Nat) (c : Client H W) : ClientEvent H → Step H W
  | .subscribe topic h => (c.subscribe b topic h).2
  | .unsubscribe topic id => ((c.unsubscribe topic id).2, [])
  | .request uri payload reported => c.request now uri payload reported
  | .describe metadata => c.describe now metadata
  | .close => (c.close, [])
  | .pump => c.pump now
  | .look => c.look
  | .payload text => c.payload b now text
  | .socket e => c.onSocket now e
  | .outcome key result => c.outcome b now key result
  | .retry => c.retry now
  | .expire call => c.expire now call
  | .collect call => c.collect call

/-- The events in order, each at its time. -/
def run (b : Behaviour H W) (c : Client H W) : List (Nat × ClientEvent H) → Step H W
  | [] => (c, [])
  | (now, e) :: rest => Step.andThen (c.step b now e) fun d => d.run b rest

end Client

end TopicClient
