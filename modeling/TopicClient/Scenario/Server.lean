/-!
# The socket side of a scripted server

A server answers handshakes in one of three ways, and it speaks on the connection
that it took last. That connection is over when the script ends it, and when the
client has left it and the server can notice. A deaf server neither takes nor sends
anything, and notices nothing. A server out of reach refuses every dial.
-/

namespace TopicClient.Scenario

inductive Handshake where
  | accept
  | reject
  | hold
deriving DecidableEq, Repr, Inhabited

/-- What reaches the client: the end of a dial, or something on its connection. -/
inductive Arrival where
  | taken
  | refused
  | text (payload : String)
  | closed (frame : Option (Nat × String))
  | broken
deriving DecidableEq, Repr

structure Server where
  reachable : Bool := true
  handshake : Handshake := .accept
  linked : Bool := false
  deaf : Bool := false
  dropped : Bool := false
deriving Repr, Inhabited

namespace Server

/-- How a dial ends, as the server stands at that moment; `none` if it never does. -/
def answer? (s : Server) : Option Arrival :=
  if s.reachable then
    match s.handshake with
    | .accept => some .taken
    | .reject => some .refused
    | .hold => none
  else some .refused

/-- A dial that is taken becomes the connection. -/
def upon (a : Arrival) (s : Server) : Server :=
  match a with
  | .taken => { s with linked := true, deaf := false, dropped := false }
  | _ => s

def canSpeak (s : Server) : Bool := s.linked && !s.deaf

/-- Something sent on the connection, and whether it could be sent. -/
def send (arrival : Option Arrival) (s : Server) : Bool × Option Arrival :=
  if s.canSpeak then (true, arrival) else (false, none)

/-- Ends the connection with a close frame. -/
def close (frame : Option (Nat × String)) (s : Server) : Bool × Option Arrival × Server :=
  if s.canSpeak then (true, some (.closed frame), { s with linked := false })
  else (false, none, s)

/-- Ends the connection without a word. -/
def drop (s : Server) : Bool × Option Arrival × Server :=
  if s.linked then
    (true, some .broken, { s with linked := false, deaf := false, dropped := true })
  else (false, none, s)

def deafen (s : Server) : Bool × Server :=
  if s.linked then (true, { s with deaf := true }) else (false, s)

/-- The client has no connection. -/
def alone (s : Server) : Server :=
  if s.deaf then s else { s with linked := false, dropped := false }

/-- Why a write of the client fails, if it does. -/
def fault? (s : Server) : Option String :=
  if s.deaf || s.dropped then some "broken pipe" else none

end Server

end TopicClient.Scenario
