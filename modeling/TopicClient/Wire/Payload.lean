import TopicClient.Notice
import TopicClient.Wire.Header

/-!
# Payloads

A payload is a sequence of segments separated by blank lines. A segment is a
header line and, after a line feed, a body. Reading never fails: a segment
with a bad header is dropped and a bad body is left out, each with a notice.
-/

namespace TopicClient.Wire

open Json

def separatorChars : List Char := ['\n', '\n']

def separator : String := String.ofList separatorChars

/-- The body is written unless it is absent or null. -/
def bodyChars : Option Json → List Char
  | none | some .null => []
  | some v => '\n' :: v.chars

def packChars (v : Version) (m : Message) : List Char :=
  (header v m).chars ++ bodyChars m.body

def pack (v : Version) (m : Message) : String := String.ofList (packChars v m)

def packBatch (v : Version) (ms : List Message) : String :=
  String.ofList (separatorChars.intercalate (ms.map (packChars v)))

/-- The parts between blank lines, taken from the left. -/
def segments : List Char → List (List Char)
  | [] => [[]]
  | '\n' :: '\n' :: cs => [] :: segments cs
  | c :: cs =>
    match segments cs with
    | [] => [[c]]
    | s :: rest => (c :: s) :: rest

/-- The first line, and what follows its line feed. -/
def cutLine : List Char → List Char × List Char
  | [] => ([], [])
  | c :: cs =>
    if c = '\n' then ([], cs)
    else
      let (line, rest) := cutLine cs
      (c :: line, rest)

structure Unpacked (α : Type) where
  result : α
  notices : List Notice

/-- Puts the body into the message; an empty text is no body. -/
def withBody (m : Message) (body : List Char) : Unpacked Message :=
  if body.isEmpty then ⟨m, []⟩
  else
    match parseChars? body with
    | some v => ⟨{ m with body := some v }, []⟩
    | none => ⟨m, [.invalidBody]⟩

def unpackSegment (v : Version) (segment : List Char) : Unpacked (Option Message) :=
  let (line, body) := cutLine segment
  match (Draft.parse? line).bind (ofHeader? v) with
  | none => ⟨none, [.invalidHeader]⟩
  | some m =>
    let ⟨m, notices⟩ := withBody m body
    ⟨some m.withUpdate, notices⟩

def unpackOne (v : Version) (segment : String) : Unpacked (Option Message) :=
  unpackSegment v segment.toList

def unpackChars (v : Version) (payload : List Char) : Unpacked (List Message) :=
  if payload.isEmpty then ⟨[], []⟩
  else
    let parts := (segments payload).map (unpackSegment v)
    ⟨parts.filterMap Unpacked.result, parts.flatMap Unpacked.notices⟩

def unpack (v : Version) (payload : String) : Unpacked (List Message) :=
  unpackChars v payload.toList

end TopicClient.Wire
