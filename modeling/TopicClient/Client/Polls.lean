import TopicClient.Client.Basic

/-!
# Polls and posts

Posts get numbers in the order in which they start. A topic is armed by a poll
from its cursor; polls go on from the cursors that the registry has at that
moment, unless polling is stopped or the client is closed.
-/

namespace TopicClient.Client
variable {H W : Type}

abbrev Step (H W : Type) := Client H W × List ClientEffect

/-- One step after another; their effects follow in that order. -/
def Step.andThen (s : Step H W) (f : Client H W → Step H W) : Step H W :=
  let (c, more) := f s.1
  (c, s.2 ++ more)

/-- The same kind of step for every item, in order. -/
def forEach {α : Type} (f : α → Client H W → Step H W) : List α → Client H W → Step H W
  | [], c => (c, [])
  | a :: as, c => Step.andThen (f a c) (forEach f as)

def post (purpose : Purpose) (m : Message) (c : Client H W) : Step H W :=
  let key := c.lastPost + 1
  ({ c with posts := c.posts ++ [(key, purpose)], lastPost := key }, [.posted key (c.pack m)])

def withPolling (f : Polling → Polling) (c : Client H W) : Client H W :=
  { c with supervisor := { c.supervisor with polling := f c.supervisor.polling } }

def poll (cursor : String × Int64) (c : Client H W) : Step H W :=
  c.post (.poll cursor.1 cursor.2) (Polling.request cursor.1 cursor.2)

/-- Starts a poll for every topic that has none. -/
def arm (cursors : Cursors) (c : Client H W) : Step H W :=
  let (started, polling) := c.supervisor.polling.arm cursors.entries
  forEach poll started (c.withPolling fun _ => polling)

def rearm (c : Client H W) : Step H W :=
  if c.supervisor.polling.stopped || c.isClosed then (c, [])
  else c.arm c.core.registry.cursors

/-- The delay of the first failed poll that is over ends. -/
def retry (now : Nat) (c : Client H W) : Step H W :=
  match c.retries.find? (· ≤ now) with
  | some deadline => { c with retries := c.retries.erase deadline }.rearm
  | none => (c, [])

end TopicClient.Client
