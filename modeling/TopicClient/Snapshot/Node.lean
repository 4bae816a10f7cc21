import TopicClient.Json.Basic

/-!
# Nodes of a snapshot

The value of a topic as a tree. An object is a struct or a map and keeps its
fields in the order they came; everything else, arrays included, is a leaf. A
leaf may carry the value it replaced and the time of that change.
-/

namespace TopicClient

structure Change where
  previous : Json
  changedAt : Int
deriving Repr

inductive NodeKind where
  | struct
  | map
deriving DecidableEq, Repr, Inhabited

namespace NodeKind

def name : NodeKind → String
  | struct => "struct"
  | map => "map"

def isMarked (marker : String) (members : List (String × Json)) : Bool :=
  match Assoc.find? marker members with
  | some (.bool true) => true
  | _ => false

/-- The kind that the members of an object declare, if any. -/
def ofMarkers? (members : List (String × Json)) : Option NodeKind :=
  if isMarked "_isMap" members then some map
  else if isMarked "_isStruct" members then some struct
  else none

end NodeKind

inductive Node where
  | leaf (value : Json) (change : Option Change)
  | object (kind : NodeKind) (fields : List (String × Node))
deriving Repr

/-- Keys from the root. -/
abbrev Path := List String

namespace Node

def empty : Node := .object .struct []

instance : Inhabited Node := ⟨empty⟩

def isObject : Node → Bool
  | object _ _ => true
  | leaf _ _ => false

def kind : Node → NodeKind
  | object k _ => k
  | leaf _ _ => .struct

def fields : Node → List (String × Node)
  | object _ fs => fs
  | leaf _ _ => []

def value? : Node → Option Json
  | leaf v _ => some v
  | object _ _ => none

def change? : Node → Option Change
  | leaf _ c => c
  | object _ _ => none

def field? (key : String) (n : Node) : Option Node :=
  Assoc.find? key n.fields

def get? : Path → Node → Option Node
  | [], n => some n
  | key :: path, n => (n.field? key).bind (get? path)

mutual

/-- The tree of a value, without any change. -/
def ofJson : Json → Node
  | .obj ms => .object ((NodeKind.ofMarkers? ms).getD .struct) (ofMembers ms)
  | v => .leaf v none
termination_by structural v => v

def ofMembers : List (String × Json) → List (String × Node)
  | [] => []
  | (key, v) :: ms => (key, ofJson v) :: ofMembers ms
termination_by structural ms => ms

end

mutual

/-- The plain value. -/
def toJson : Node → Json
  | .leaf v _ => v
  | .object _ fs => Json.object (toMembers fs)
termination_by structural n => n

def toMembers : List (String × Node) → List (String × Json)
  | [] => []
  | (key, n) :: fs => (key, toJson n) :: toMembers fs
termination_by structural fs => fs

end

def changeKey (key : String) : String := "_" ++ key ++ "Change"

def Change.toJson (c : Change) : Json :=
  Json.object [("previous", c.previous), ("changedAt", Json.int c.changedAt)]

def changeMembers (key : String) : Option Change → List (String × Json)
  | none => []
  | some c => [(changeKey key, Change.toJson c)]

mutual

/-- The value with a member beside every changed leaf that tells its change. Of two
members of one name the later counts. -/
def annotated : Node → Json
  | .leaf v _ => v
  | .object _ fs => Json.object (annotatedMembers fs)
termination_by structural n => n

def annotatedMembers : List (String × Node) → List (String × Json)
  | [] => []
  | (key, n) :: fs =>
    (key, annotated n) :: (changeMembers key n.change? ++ annotatedMembers fs)
termination_by structural fs => fs

end

mutual

/-- The node with all its changes moved to time zero, which is to say, up to times. -/
def untimed : Node → Node
  | .leaf v c => .leaf v (c.map fun c => { c with changedAt := 0 })
  | .object k fs => .object k (untimedFields fs)
termination_by structural n => n

def untimedFields : List (String × Node) → List (String × Node)
  | [] => []
  | (key, n) :: fs => (key, untimed n) :: untimedFields fs
termination_by structural fs => fs

end

mutual

/-- All nodes with their paths, parents before children and fields in order. -/
def outline (path : Path) : Node → List (Path × Node)
  | .leaf v c => [(path, .leaf v c)]
  | .object k fs => (path, .object k fs) :: outlineFields path fs
termination_by structural n => n

def outlineFields (path : Path) : List (String × Node) → List (Path × Node)
  | [] => []
  | (key, n) :: fs => outline (path ++ [key]) n ++ outlineFields path fs
termination_by structural fs => fs

end

end Node

end TopicClient
