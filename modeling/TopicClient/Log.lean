import TopicClient.Json.Printer

/-!
# Log events and their capture

An event has a level, a target, a message and named fields. A capture keeps the
events it is given, in order, and answers questions about them. Diagnostic
records go to a sink; a sink that writes to the log makes an event of each.
-/

namespace TopicClient

inductive Level where
  | error
  | warn
  | info
  | debug
  | trace
deriving DecidableEq, Repr, Inhabited

namespace Level

def name : Level → String
  | error => "ERROR"
  | warn => "WARN"
  | info => "INFO"
  | debug => "DEBUG"
  | trace => "TRACE"

def ofName? : String → Option Level
  | "ERROR" => some error
  | "WARN" => some warn
  | "INFO" => some info
  | "DEBUG" => some debug
  | "TRACE" => some trace
  | _ => none

end Level

structure LogEvent where
  level : Level
  target : String
  message : String
  fields : List (String × String)
deriving DecidableEq, Repr

def LogEvent.field? (name : String) (e : LogEvent) : Option String :=
  Assoc.find? name e.fields

/-- Whether one text occurs in another. -/
def occursIn (part : List Char) : List Char → Bool
  | [] => part.isEmpty
  | c :: cs => part.isPrefixOf (c :: cs) || occursIn part cs

/-- The events captured so far, oldest first. -/
abbrev Capture := List LogEvent

namespace Capture

def hasMessage (text : String) (c : Capture) : Bool :=
  c.any fun e => occursIn text.toList e.message.toList

def hasEvent (level : Level) (text : String) (c : Capture) : Bool :=
  c.any fun e => e.level = level && occursIn text.toList e.message.toList

def countAt (level : Level) (c : Capture) : Nat :=
  c.countP fun e => e.level = level

def forTarget (start : String) (c : Capture) : Capture :=
  c.filter fun e => start.toList.isPrefixOf e.target.toList

end Capture

/-- The grade of a diagnostic record. -/
inductive Grade where
  | info
  | error
deriving DecidableEq, Repr

namespace Grade

def name : Grade → String
  | info => "info"
  | error => "error"

def level : Grade → Level
  | info => .info
  | error => .error

end Grade

/-- A record written to the log. -/
def LogEvent.ofRecord (grade : Grade) (record : Json) : LogEvent :=
  ⟨grade.level, "amp::diagnostics", "diagnostic", [("record", record.text)]⟩

/-- What is left of a record that no task can post. -/
def LogEvent.droppedRecord (grade : Grade) : LogEvent :=
  ⟨.debug, "amp_logging::sink", "no runtime, dropping diagnostic record",
    [("path", grade.name)]⟩

/-- The address that records of a grade are posted to; slashes at the end of the
base do not count. -/
def diagnosticsAddress (base : String) (grade : Grade) : String :=
  String.ofList (base.toList.reverse.dropWhile (· = '/')).reverse ++ "/" ++ grade.name

end TopicClient
