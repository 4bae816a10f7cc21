import TopicClient.Snapshot.Node

/-!
# Structural parents

Every object below the root has a structural parent: its container if that is a
struct, and the container of its container if that is a map. A child of a
root-level map has none. The index follows a merge along the same path as the
tree: what is deleted or overwritten is forgotten with all that lies below it.
-/

namespace TopicClient

abbrev Parents := List (Path × Path)

namespace Parents

/-- The structural parent of a child of the container. -/
def parentIn? (kind : NodeKind) (container : Path) : Option Path :=
  match kind with
  | .struct => some container
  | .map => if container.isEmpty then none else some container.dropLast

def record (kind : NodeKind) (container : Path) (key : String) (ps : Parents) : Parents :=
  match parentIn? kind container with
  | some parent => Assoc.put (container ++ [key]) parent ps
  | none => Assoc.erase (container ++ [key]) ps

def forget (path : Path) (ps : Parents) : Parents :=
  ps.filter fun e => !path.isPrefixOf e.1

mutual

/-- The index of a value that becomes the child `key` of the container. -/
def ofJson (kind : NodeKind) (container : Path) (key : String) (ps : Parents) :
    Json → Parents
  | .obj ms =>
    ofMembers ((NodeKind.ofMarkers? ms).getD .struct) (container ++ [key])
      (record kind container key ps) ms
  | _ => ps
termination_by structural v => v

def ofMembers (kind : NodeKind) (path : Path) (ps : Parents) :
    List (String × Json) → Parents
  | [] => ps
  | (key, v) :: ms => ofMembers kind path (ofJson kind path key ps v) ms
termination_by structural ms => ms

end

mutual

/-- The index after a diff of the child `key`, which was `old`. -/
def merge (kind : NodeKind) (container : Path) (key : String) (old : Option Node)
    (ps : Parents) : Json → Parents
  | .null => if old.isSome then forget (container ++ [key]) ps else ps
  | .obj ms =>
    let before := old.getD Node.empty
    mergeMembers ((NodeKind.ofMarkers? ms).getD before.kind) (container ++ [key])
      before.fields (record kind container key ps) ms
  | _ =>
    if (old.map Node.isObject).getD false then forget (container ++ [key]) ps else ps
termination_by structural d => d

def mergeMembers (kind : NodeKind) (path : Path) (fields : List (String × Node))
    (ps : Parents) : List (String × Json) → Parents
  | [] => ps
  | (key, d) :: ms =>
    mergeMembers kind path fields (merge kind path key (Assoc.find? key fields) ps d) ms
termination_by structural ms => ms

end

end Parents

end TopicClient
