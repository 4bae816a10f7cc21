import TopicClient.Json.Decimal

/-!
# Failures of a client

Three layers. A transport error says that bytes did not arrive. A server error
is the answer of a server that did receive the request, marked with the side of
the server it comes from. A client error is what a caller sees.
-/

namespace TopicClient

/-- The side of the server that produced an error. -/
inductive Origin where
  | application
  | transport
deriving DecidableEq, Repr, Inhabited

namespace Origin

def code : Origin → UInt8
  | application => 0
  | transport => 1

def ofCode (c : UInt8) : Origin :=
  if c = 1 then transport else application

def name : Origin → String
  | application => "application"
  | transport => "transport"

def ofName? : String → Option Origin
  | "application" => some application
  | "transport" => some transport
  | _ => none

@[simp] theorem ofCode_code (o : Origin) : ofCode o.code = o := by
  cases o <;> rfl

end Origin

/-- The error part of a response. -/
structure ServerError where
  origin : Origin
  message : String
  code : Option Int64
deriving DecidableEq, Repr

inductive TransportError where
  | closed
  | write (message : String)
  | http (status : Nat) (body : String)
  | network (message : String)
  | ping (message : String)
  | givenUp (attempts : UInt32)
deriving DecidableEq, Repr

namespace TransportError

def message : TransportError → String
  | closed => "connection closed"
  | write m => "write failed: " ++ m
  | http status _ => "polling request failed with status " ++ Json.natText status
  | network m => "network error: " ++ m
  | ping m => "ping failed: " ++ m
  | givenUp n => "reconnect abandoned after " ++ Json.natText n.toNat ++ " attempts"

/-- The server refused the request; asking again is pointless. -/
def isClientError : TransportError → Bool
  | http status _ => 400 ≤ status && status < 500
  | _ => false

end TransportError

inductive ClientError where
  | transport (e : TransportError)
  | application (e : ServerError)
  | timeout (id : UInt64) (ms : Nat)
  | closed
  | config (message : String)
deriving DecidableEq, Repr

namespace ClientError

def message : ClientError → String
  | transport e => e.message
  | application e => e.origin.name ++ " error: " ++ e.message
  | timeout id ms =>
    "request " ++ Json.natText id.toNat ++ " timed out after " ++ Json.natText ms ++ "ms"
  | closed => "client closed"
  | config m => "invalid configuration: " ++ m

def isTransport : ClientError → Bool
  | transport _ | timeout _ _ | closed => true
  | application e => e.origin = .transport
  | config _ => false

def isApplication : ClientError → Bool
  | application e => e.origin = .application
  | _ => false

end ClientError

end TopicClient
