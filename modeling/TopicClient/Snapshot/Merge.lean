import TopicClient.Notice
import TopicClient.Snapshot.Parents

/-!
# Snapshots and diffs

A diff is an object. For each of its members, null deletes the field, an object
is merged into the field (into an empty one if the field is absent or no
object), and anything else overwrites it. Overwriting with a different value
records the change if changes are tracked; a new field has no change, and a
diff that is no object is ignored.
-/

namespace TopicClient

/-- How a merge records changes, and when it happens. -/
structure Stamp where
  track : Bool
  now : Int
deriving Repr

namespace Stamp

def change? (s : Stamp) (previous : Json) : Option Change :=
  if s.track then some ⟨previous, s.now⟩ else none

/-- A leaf overwritten with an equal value stays as it is, with its old change. -/
def overwrite (s : Stamp) (value : Json) : Option Node → Node
  | none => .leaf value none
  | some (.leaf current change) =>
    if current.same value then .leaf current change
    else if s.track then .leaf value (s.change? current)
    else .leaf value change
  | some (.object kind fields) =>
    .leaf value (s.change? (Node.object kind fields).toJson)

end Stamp

namespace Node

def setField (key : String) (fields : List (String × Node)) :
    Option Node → List (String × Node)
  | none => Assoc.erase key fields
  | some n => Assoc.put key n fields

/-- What an object is merged into. -/
def base (old : Option Node) : Node := old.getD .empty

mutual

/-- The node after a diff of its value, with absence on either side. -/
def merge (s : Stamp) (old : Option Node) : Json → Option Node
  | .null => none
  | .obj ms =>
    some (.object ((NodeKind.ofMarkers? ms).getD (base old).kind)
      (mergeFields s (base old).fields ms))
  | v => some (s.overwrite v old)
termination_by structural d => d

def mergeFields (s : Stamp) (fields : List (String × Node)) :
    List (String × Json) → List (String × Node)
  | [] => fields
  | (key, d) :: ms =>
    mergeFields s (setField key fields (merge s (Assoc.find? key fields) d)) ms
termination_by structural ms => ms

end

end Node

/-- The merged value of a topic. -/
structure Snapshot where
  root : Node
  parents : Parents
  track : Bool
deriving Repr, Inhabited

namespace Snapshot

def empty (track : Bool) : Snapshot := ⟨.empty, [], track⟩

/-- A whole value, without any change. -/
def ofJson (track : Bool) (v : Json) : Snapshot :=
  { root := .ofJson v
    parents := Parents.ofMembers ((NodeKind.ofMarkers? v.members).getD .struct) [] [] v.members
    track := track }

/-- A root that is no object gives way to an empty one. -/
def merge (now : Int) (diff : Json) (s : Snapshot) : Snapshot :=
  match diff with
  | .obj ms =>
    let parents := if s.root.isObject then s.parents else []
    { s with
      root := ((Node.merge ⟨s.track, now⟩ (some s.root) diff).getD .empty)
      parents := Parents.mergeMembers ((NodeKind.ofMarkers? ms).getD s.root.kind) []
        s.root.fields parents ms }
  | _ => s

def mergeNotices (diff : Json) : List Notice :=
  if diff.isObject then [] else [.nonObjectDiff]

def get? (path : Path) (s : Snapshot) : Option Node := s.root.get? path

def change? (path : Path) (s : Snapshot) : Option Change :=
  (s.get? path).bind Node.change?

def parentOf? (path : Path) (s : Snapshot) : Option Path :=
  Assoc.find? path s.parents

def toJson (s : Snapshot) : Json := s.root.toJson

def annotated (s : Snapshot) : Json := s.root.annotated

/-- The snapshot up to the times of its changes. -/
def untimed (s : Snapshot) : Snapshot := { s with root := s.root.untimed }

end Snapshot

end TopicClient
