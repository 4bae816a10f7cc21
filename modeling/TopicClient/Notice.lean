import TopicClient.Log

/-!
# Notices

What the library reports beside its results. A notice names its cause; level,
text and fields follow from the cause alone.
-/

namespace TopicClient

inductive Notice where
  | invalidHeader
  | invalidBody
  | nonObjectDiff
  | settingsLoading
  | settingsMissing
  | rejectedVariable (key value : String)
  | uncorrelatedResponse
  | unknownResponse (id : UInt64)
  | subscribed (topic : String)
  | unsubscribed (topic : String)
  | topicNotFound (topic : String)
  | topicClosed (topic : String)
  | unknownUpdate (topic : String) (code : UInt8)
  | handlerPanicked (topic : String)
  | transportChanged
deriving DecidableEq, Repr

namespace Notice

def level : Notice → Level
  | rejectedVariable _ _ | unknownUpdate _ _ => .warn
  | handlerPanicked _ => .error
  | transportChanged => .info
  | _ => .debug

def text : Notice → String
  | invalidHeader => "dropping segment with invalid header"
  | invalidBody => "ignoring invalid message body"
  | nonObjectDiff => "ignoring non-object diff"
  | settingsLoading => "loading settings from file"
  | settingsMissing => "settings file not found, using defaults"
  | rejectedVariable _ _ => "invalid env var, ignoring"
  | uncorrelatedResponse => "response without correlation id dropped"
  | unknownResponse _ => "response for unknown request dropped"
  | subscribed _ => "subscribed"
  | unsubscribed _ => "unsubscribed"
  | topicNotFound _ => "topic not found"
  | topicClosed _ => "topic closed by server"
  | unknownUpdate _ _ => "unknown update type, dropping publish"
  | handlerPanicked _ => "topic handler panicked"
  | transportChanged => "transport changed"

def fields : Notice → List (String × String)
  | rejectedVariable key value => [("key", key), ("value", value)]
  | unknownResponse id => [("correlation_id", Json.natText id.toNat)]
  | subscribed topic | unsubscribed topic | topicNotFound topic | topicClosed topic
  | handlerPanicked topic => [("topic", topic)]
  | unknownUpdate topic code => [("topic", topic), ("code", Json.natText code.toNat)]
  | _ => []

end Notice

end TopicClient
