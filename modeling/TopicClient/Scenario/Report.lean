import TopicClient.Scenario.Script
import TopicClient.Url.Path

/-!
# Reports

What a script sees of a client after a step: its state, and what has happened
since the last report. Things that have no order of their own are sorted. Texts of
the system, which differ from one machine to the next, are left out.
-/

namespace TopicClient

/-- A status without the texts of the system. -/
def ConnectionStatus.steady (s : ConnectionStatus) : ConnectionStatus :=
  { s with
    events := s.events.map fun e =>
      { e with detail := { e.detail with message := e.detail.message.map fun _ => "*" } } }

namespace Scenario

/-- An error text without the part that the system gave. -/
def steadyText (s : String) : String :=
  if s.startsWith "network error:" then "network error"
  else if s.startsWith "write failed:" then "write failed"
  else s

def steadyEvent (e : Json) : Json :=
  .obj (e.members.map fun (k, v) => (k, if k = "message" then .str "*" else v))

def steadyStatus : Json → Json
  | .obj ms =>
    .obj (ms.map fun
      | ("events", .arr es) => ("events", .arr (es.map steadyEvent))
      | m => m)
  | v => v

/-- A diagnostic record without the texts of the system. -/
def steadyRecord (r : Json) : Json :=
  .obj (r.members.map fun
    | ("message", .str s) => ("message", .str (steadyText s))
    | ("status", s) => ("status", steadyStatus s)
    | m => m)

structure Report where
  transport : TransportKind
  socket : Option SocketState
  topics : List String
  pending : Nat
  held : List String
  entries : List (String × Entry)
  done : List (String × Except ClientError Json)
  posts : List String
  diagnosed : List (String × String)
  frames : List Sight
  changes : List TransportChange
  sink : List (Grade × Json)

namespace World

/-- The diagnostic posts that reach the server, as target and body. -/
def diagnosed (w : World) : List (String × String) :=
  match w.client.settings.diagnosticsUrl with
  | some base =>
    if w.server.reachable then
      let posts := w.records.filterMap fun (grade, r) =>
        (Url.requested? (diagnosticsAddress base grade)).map fun target =>
          (target, (steadyRecord r).text)
      posts.mergeSort fun a b => a.1 < b.1 || (a.1 = b.1 && a.2 ≤ b.2)
    else []
  | none => []

/-- The records that are not posted, errors last. -/
def sink (w : World) : List (Grade × Json) :=
  let records := w.records.map fun (grade, r) => (grade, steadyRecord r)
  if w.client.settings.diagnosticsUrl.isSome then []
  else records.filter (·.1 = .info) ++ records.filter (·.1 = .error)

def report (w : World) : Report :=
  { transport := w.client.supervisor.current
    socket := w.client.socket.map Socket.state
    topics := w.client.topics
    pending := w.client.pendingRequests
    held := w.heldInOrder.map Prod.snd
    entries := w.client.core.surroundings.entries
    done := w.done.mergeSort fun a b => a.1 ≤ b.1
    posts := w.posts.mergeSort (· ≤ ·)
    diagnosed := w.diagnosed
    frames := w.frames
    changes := w.changes
    sink := w.sink }

end World

end Scenario

end TopicClient
