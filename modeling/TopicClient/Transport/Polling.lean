import TopicClient.Message

/-!
# Polling

Every topic is polled on its own and has at most one poll in flight. A poll that
succeeds is followed by the next one, a poll that the server refuses is the last
of its topic, and after any other failure polling goes on when a delay is over.
While polling is stopped no poll starts, but those in flight still complete.
-/

namespace TopicClient

structure Polling where
  stopped : Bool := false
  inFlight : List String := []
deriving DecidableEq, Repr, Inhabited

namespace Polling

/-- The topics not in flight yet become so; each gets a poll from its own cursor. -/
def arm (cursors : List (String × Int64)) (p : Polling) :
    List (String × Int64) × Polling :=
  match cursors with
  | [] => ([], p)
  | (topic, ts) :: rest =>
    if topic ∈ p.inFlight then arm rest p
    else
      let (started, q) := arm rest { p with inFlight := p.inFlight ++ [topic] }
      ((topic, ts) :: started, q)

def finish (topic : String) (p : Polling) : Polling :=
  { p with inFlight := p.inFlight.erase topic }

def stop (p : Polling) : Polling := { p with stopped := true }

def resume (p : Polling) : Polling := { p with stopped := false }

/-- Posts carry wire text. -/
def contentType : String := "text/plain; charset=utf-8"

/-- The message of one poll. -/
def request (topic : String) (ts : Int64) : Message := .subscribe ⟨[(topic, ts)]⟩

/-- How a poll goes on after its outcome. -/
inductive Next where
  | again
  | abandon
  | afterDelay
deriving DecidableEq, Repr

def next : Except TransportError String → Next
  | .ok _ => .again
  | .error e => if e.isClientError then .abandon else .afterDelay

/-- The outcome of an answered request: a status of success yields the body. -/
def outcome (status : Nat) (body : String) : Except TransportError String :=
  if 200 ≤ status ∧ status < 300 then .ok body else .error (.http status body)

end Polling

end TopicClient
