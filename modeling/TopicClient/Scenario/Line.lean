import TopicClient.Scenario.Server
import TopicClient.Transport.Socket

/-!
# The line between a socket and the server

What a socket does without further script, one thing after another: it begins its
first attempt, writes the frames of its queue, reads what has arrived, and heeds the
timers that have fired.
-/

namespace TopicClient.Scenario

/-- A frame that the server sees. -/
inductive Sight where
  | text (s : String)
  | goodbye
deriving DecidableEq, Repr

/-- What happens to a socket: an event of its own, or a payload for its owner. -/
inductive Occurrence (T : Type) where
  | event (e : SocketEvent T)
  | payload (text : String)

def Arrival.occurrence {T : Type} : Arrival → Occurrence T
  | taken => .event .dialed
  | refused => .event (.dialFailed "connection refused")
  | text s => .payload s
  | closed frame => .event (.ofClose frame)
  | broken => .event (.readFailed "connection reset")

/-- The first of the timers that are due. -/
def earliest? {α : Type} (now : Nat) (timers : List (Nat × α)) : Option α :=
  ((timers.filter (·.1 ≤ now)).mergeSort fun a b => a.1 ≤ b.1).head?.map Prod.snd

namespace Server

/-- What the server sees of something written. -/
def sees (sight : Sight) (s : Server) : List Sight :=
  if s.canSpeak then [sight] else []

/-- The timers of the socket as they fire on this line. -/
def timers {T : Type} (socket : Socket T) (s : Server) : List (Nat × SocketEvent T) :=
  socket.timers.map fun
    | (deadline, .pingDue _) => (deadline, .pingDue s.fault?)
    | timer => timer

/-- The next thing that happens to the socket, what is left on the line, and the server
after it. Timers have fired up to the given time. -/
def next? {T : Type} (fired : Nat) (line : List Arrival) (socket : Socket T) (s : Server) :
    Option (Occurrence T × List Arrival × Server) :=
  if socket.phase = .starting then some (.event .attempt, line, s)
  else if socket.isConnected && !socket.queue.isEmpty then
    some (.event (.write s.fault?), line, s)
  else
    match line with
    | a :: rest => some (a.occurrence, rest, s.upon a)
    | [] => (earliest? fired (s.timers socket)).map fun e => (.event e, [], s)

end Server

end TopicClient.Scenario
