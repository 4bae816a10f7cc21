import TopicClient.Client.Basic
import TopicClient.Text.Quoted
import TopicClient.Url

/-!
# Starting a client

What settings must satisfy before a client starts: they are valid, the addresses
that it will use are URLs, and there is a runtime for its tasks to run in.
-/

namespace TopicClient

inductive StartFault where
  | settings (fault : Settings.Fault)
  | pollingUrl (fault : Url.Fault)
  | socketUrl (fault : Url.Fault)
  | noRuntime
deriving DecidableEq, Repr

def StartFault.message : StartFault → String
  | settings fault => (SettingsError.invalid fault).message
  | pollingUrl fault => "pollingUrl: " ++ fault.message
  | socketUrl fault => "socketUrl: " ++ fault.message
  | noRuntime => "client must be built inside a Tokio runtime"

def StartFault.error (fault : StartFault) : ClientError := .config fault.message

namespace Settings

/-- The address of the socket does not count if polling is forced. -/
def urlFault? (s : Settings) : Option StartFault :=
  ((Url.fault? s.pollingUrl).map .pollingUrl) <|>
    (if s.forcePolling then none else (Url.fault? s.socketUrl).map .socketUrl)

/-- The first thing that keeps a client from starting. -/
def startFault? (hasRuntime : Bool) (s : Settings) : Option StartFault :=
  (s.fault?.map .settings) <|> s.urlFault? <|> (if hasRuntime then none else some .noRuntime)

end Settings

def TransportKind.title : TransportKind → String
  | socket => "Socket"
  | polling => "Polling"

/-- One line that tells the state of a client. -/
def Client.summary {H W : Type} (c : Client H W) : String :=
  "Client \x7b transport: " ++ c.supervisor.current.title ++
    ", topics: [" ++ ", ".intercalate (c.topics.map Text.quoted) ++
    "], pending_requests: " ++ Json.natText c.pendingRequests ++
    ", closed: " ++ (if c.isClosed then "true" else "false") ++ " \x7d"

end TopicClient
