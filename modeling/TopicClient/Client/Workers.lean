import TopicClient.Client.Step

/-!
# Workers

The steps of a client are those of a single worker that nobody interrupts. A client has
several: one for its outbox, one for the statuses of the socket, and one for every poll.
When a worker arms polling it first finds that it has to, and then goes through the topics
one after another, and it does not ask again. In between anything else may happen to the
client, a switch of the transport too. What has been found and not been done is an errand;
here errands are carried out in moves of their own, at any moment and in any order. A switch
is one move: who asks for the current transport waits until it is over.
-/

namespace TopicClient

/-- What a worker is about to do: to dispatch the answer to a poll, to ask whether polling
goes on, to arm it from the cursors that the registry has by then, or from these. -/
inductive Errand where
  | dispatch (body : String)
  | ask
  | renew
  | arm (cursors : List (String × Int64))
deriving DecidableEq, Repr

namespace Client
variable {H W : Type}

/-- The cursors that the next message of the outbox arms polling from, if it does. -/
def sends? (c : Client H W) : Option Cursors :=
  match c.core.outbox with
  | [] => none
  | m :: _ =>
    if c.isClosed || c.socket.isSome && c.supervisor.onSocket || m.kind ≠ .subscribe then none
    else some (m.subscriptions.getD ⟨[]⟩)

/-- What an event does at once, and the errands that it leaves. -/
def undertake (b : Behaviour H W) (now : Nat) (c : Client H W) (e : ClientEvent H) :
    Step H W × List Errand :=
  match e with
  | .pump =>
    match c.sends? with
    | some cursors =>
      let rest := c.core.outbox.tail
      (({ c with core := { c.core with outbox := rest } }, []), [.arm cursors.entries])
    | none => (c.pump now, [])
  | .outcome key (.ok body) =>
    match Assoc.find? key c.posts with
    | some (.poll topic _) =>
      let d := { c with posts := Assoc.erase key c.posts }.withPolling (Polling.finish topic)
      ((d, []), [.dispatch body])
    | _ => (c.outcome b now key (.ok body), [])
  | .retry =>
    match c.retries.find? (· ≤ now) with
    | some deadline => (({ c with retries := c.retries.erase deadline }, []), [.ask])
    | none => ((c, []), [])
  | e => (c.step b now e, [])

/-- A poll from the cursor, unless its topic has one. -/
def startPoll (cursor : String × Int64) (c : Client H W) : Step H W :=
  if cursor.1 ∈ c.supervisor.polling.inFlight then (c, [])
  else
    (c.withPolling fun p => { p with inFlight := p.inFlight ++ [cursor.1] }).poll cursor

/-- The next move of an errand, and what is left of it. -/
def goOn (b : Behaviour H W) (now : Nat) (c : Client H W) : Errand → Step H W × List Errand
  | .dispatch body => (c.deliver b now body, [.ask])
  | .ask => ((c, []), if c.supervisor.polling.stopped || c.isClosed then [] else [.renew])
  | .renew => ((c, []), [.arm c.core.registry.cursors.entries])
  | .arm [] => ((c, []), [])
  | .arm (cursor :: rest) => (c.startPoll cursor, [.arm rest])

end Client

structure Workers (H W : Type) where
  client : Client H W
  errands : List Errand := []

/-- An event, or the next move of one of the errands. -/
inductive Workers.Move (H : Type) where
  | event (e : ClientEvent H)
  | goOn (place : Nat)

namespace Workers
variable {H W : Type}

def step (b : Behaviour H W) (now : Nat) (w : Workers H W) :
    Move H → Workers H W × List ClientEffect
  | .event e =>
    let (s, errands) := w.client.undertake b now e
    (⟨s.1, w.errands ++ errands⟩, s.2)
  | .goOn place =>
    match w.errands[place]? with
    | none => (w, [])
    | some errand =>
      let (s, left) := w.client.goOn b now errand
      (⟨s.1, w.errands.take place ++ left ++ w.errands.drop (place + 1)⟩, s.2)

/-- The moves in order, each at its time. -/
def run (b : Behaviour H W) (w : Workers H W) :
    List (Nat × Move H) → Workers H W × List ClientEffect
  | [] => (w, [])
  | (now, move) :: rest =>
    let (v, effects) := w.step b now move
    let (u, more) := v.run b rest
    (u, effects ++ more)

end Workers

end TopicClient
