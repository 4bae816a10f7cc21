import TopicClient.Message
import TopicClient.Notice

/-!
# Matching responses with requests

Every request takes the next id and leaves a waiter behind. A waiter is settled
once: by the first response with its id, or, when the request is cancelled or
everything is given up, by being closed. What happens to one id never touches
another.
-/

namespace TopicClient

/-- What a waiter gets in the end. -/
inductive Answer where
  | reply (body : Json)
  | refused (e : ServerError)
  | closed
deriving Repr

namespace Answer

/-- A response carries an error or else a body, and an absent body is null. -/
def ofResponse (m : Message) : Answer :=
  match m.error with
  | some e => refused e
  | none => reply (m.body.getD .null)

def result : Answer → Except ClientError Json
  | reply body => .ok body
  | refused e => .error (.application e)
  | closed => .error .closed

end Answer

structure Correlator where
  lastId : UInt64 := 0
  pending : List UInt64 := []
  waiters : List (UInt64 × Option Answer) := []
deriving Repr, Inhabited

namespace Correlator

/-- The message of a new request and its id. -/
def request (uri : String) (payload : Json) (c : Correlator) :
    Message × UInt64 × Correlator :=
  let id := c.lastId + 1
  (.request uri id payload, id,
    { lastId := id, pending := c.pending ++ [id], waiters := Assoc.put id none c.waiters })

/-- Takes an id out of the table and lets its waiter know. -/
def settle (id : UInt64) (answer : Answer) (c : Correlator) : Correlator :=
  { c with
    pending := c.pending.erase id
    waiters := Assoc.modify id (fun _ => some answer) c.waiters }

def isPending (id : UInt64) (c : Correlator) : Bool := c.pending.contains id

/-- Whether the response answered a pending request. -/
def resolve (m : Message) (c : Correlator) : Bool × Correlator :=
  match m.id with
  | none => (false, c)
  | some id =>
    if c.isPending id then (true, c.settle id (.ofResponse m)) else (false, c)

def resolveNotices (m : Message) (c : Correlator) : List Notice :=
  match m.id with
  | none => [.uncorrelatedResponse]
  | some id => if c.isPending id then [] else [.unknownResponse id]

/-- Whether there was such a request to forget. -/
def cancel (id : UInt64) (c : Correlator) : Bool × Correlator :=
  if c.isPending id then (true, c.settle id .closed) else (false, c)

def failAll (c : Correlator) : Correlator :=
  c.pending.foldl (fun c id => c.settle id .closed) c

def pendingCount (c : Correlator) : Nat := c.pending.length

/-- What the waiter of a request has got so far; `none` if there is no such waiter. -/
def waiter? (id : UInt64) (c : Correlator) : Option (Option Answer) :=
  Assoc.find? id c.waiters

/-- The waiter is gone; its request may still be pending. -/
def dropWaiter (id : UInt64) (c : Correlator) : Correlator :=
  { c with waiters := Assoc.erase id c.waiters }

inductive Event where
  | request (uri : String) (payload : Json)
  | resolve (m : Message)
  | cancel (id : UInt64)
  | failAll
deriving Repr

def step (c : Correlator) : Event → Correlator
  | .request uri payload => (c.request uri payload).2.2
  | .resolve m => (c.resolve m).2
  | .cancel id => (c.cancel id).2
  | .failAll => c.failAll

def run (events : List Event) : Correlator := events.foldl step {}

end Correlator

end TopicClient
