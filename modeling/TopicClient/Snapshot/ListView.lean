import TopicClient.Json.Basic
import TopicClient.Snapshot.Merge

/-!
# List views

The object-valued fields of an object whose keys do not start with an
underscore, sorted by their number `order`, then by their text `name`, then by
key. A `Gallery` keeps the orders it has computed beside the snapshot and drops,
at a merge, those of every object that the diff reaches.
-/

namespace TopicClient

namespace Node

def sortOrder (n : Node) : Json.Double :=
  (((n.field? "order").bind value?).bind Json.double?).getD Json.Double.zero

def sortName (n : Node) : String :=
  (((n.field? "name").bind value?).bind Json.str?).getD ""

def sortKey (e : String × Node) : Int × String × String :=
  (e.2.sortOrder.orderKey, e.2.sortName, e.1)

def listedBefore (a b : String × Node) : Bool :=
  let (x, m, k) := sortKey a
  let (y, n, l) := sortKey b
  decide (x < y) || (x == y && (decide (m < n) || (m == n && !decide (l < k))))

def isListed (e : String × Node) : Bool :=
  e.2.isObject && !e.1.startsWith "_"

/-- The listed fields, sorted. -/
def listView (n : Node) : List (String × Node) :=
  (n.fields.filter isListed).mergeSort listedBefore

end Node

def Snapshot.listView (path : Path) (s : Snapshot) : List (String × Node) :=
  ((s.get? path).map Node.listView).getD []

/-- A diff reaches a path if it says something about the node there or about one
above it that it replaces. -/
def Json.reaches : Json → Path → Bool
  | .obj ms, key :: path =>
    match Assoc.find? key ms with
    | some d => d.reaches path
    | none => false
  | _, _ => true
termination_by _ path => path.length

/-- A snapshot with the list orders computed so far. -/
structure Gallery where
  snapshot : Snapshot
  orders : List (Path × List String)
deriving Inhabited

namespace Gallery

def ofSnapshot (s : Snapshot) : Gallery := ⟨s, []⟩

def merge (now : Int) (diff : Json) (g : Gallery) : Gallery :=
  { snapshot := g.snapshot.merge now diff
    orders :=
      if diff.isObject then g.orders.filter fun e => !diff.reaches e.1 else g.orders }

/-- The keys of the list at a path, computed only if they are not known. -/
def order (path : Path) (g : Gallery) : List String :=
  match Assoc.find? path g.orders with
  | some keys => keys
  | none => Assoc.keys (g.snapshot.listView path)

def listing (g : Gallery) (path : Path) : List String → List (String × Node)
  | [] => []
  | key :: keys =>
    match g.snapshot.get? (path ++ [key]) with
    | some (.object kind fields) => (key, .object kind fields) :: g.listing path keys
    | _ => g.listing path keys

/-- The list at a path, and the gallery that remembers its order. -/
def list (path : Path) (g : Gallery) : List (String × Node) × Gallery :=
  let keys := g.order path
  let known :=
    if ((g.snapshot.get? path).map Node.isObject).getD false then
      Assoc.put path keys g.orders
    else g.orders
  (g.listing path keys, { g with orders := known })

end Gallery

end TopicClient
