import TopicClient.Assoc
import TopicClient.Json.Double

/-!
# JSON values

Integers and doubles are different numbers, even where they have the same
value. The members of an object ascend by name; `Json.Canonical` says so at
every level and bounds the integers to what a document can hold.
-/

namespace TopicClient

namespace Json

inductive Number where
  | int (i : Int)
  | float (x : Double)
deriving DecidableEq, Repr

namespace Number

def same : Number → Number → Bool
  | .int i, .int j => i == j
  | .float x, .float y => x.same y
  | _, _ => false

/-- An integer of a document fits 64 bits, signed or unsigned. -/
def InRange : Number → Prop
  | .int i => -0x8000000000000000 ≤ i ∧ i < 0x10000000000000000
  | .float _ => True

instance : (n : Number) → Decidable n.InRange
  | .int i => inferInstanceAs (Decidable (-0x8000000000000000 ≤ i ∧ i < 0x10000000000000000))
  | .float _ => isTrue trivial

/-- The nearest double. -/
def toDouble : Number → Double
  | .int i => Double.ofInt i
  | .float x => x

end Number

end Json

inductive Json where
  | null
  | bool (b : Bool)
  | num (n : Json.Number)
  | str (s : String)
  | arr (items : List Json)
  | obj (members : List (String × Json))
deriving Repr, Inhabited

namespace Json

def int (i : Int) : Json := .num (.int i)

def nat (n : Nat) : Json := .num (.int n)

/-- An object from members in any order; of a repeated name the last counts. -/
def object (members : List (String × Json)) : Json :=
  .obj (Assoc.ofListSorted members)

def isNull : Json → Bool
  | .null => true
  | _ => false

def isObject : Json → Bool
  | .obj _ => true
  | _ => false

def members : Json → List (String × Json)
  | .obj ms => ms
  | _ => []

def member? (name : String) (v : Json) : Option Json :=
  Assoc.find? name v.members

def str? : Json → Option String
  | .str s => some s
  | _ => none

def double? : Json → Option Double
  | .num n => some n.toDouble
  | _ => none

mutual

/-- Equality of values, for which the two floating-point zeros are one. -/
def same : Json → Json → Bool
  | .null, .null => true
  | .bool a, .bool b => a == b
  | .num m, .num n => m.same n
  | .str s, .str t => s == t
  | .arr xs, .arr ys => sameItems xs ys
  | .obj xs, .obj ys => sameMembers xs ys
  | _, _ => false
termination_by structural v => v

def sameItems : List Json → List Json → Bool
  | [], [] => true
  | x :: xs, y :: ys => x.same y && sameItems xs ys
  | _, _ => false
termination_by structural xs => xs

def sameMembers : List (String × Json) → List (String × Json) → Bool
  | [], [] => true
  | (k, x) :: xs, (l, y) :: ys => k == l && x.same y && sameMembers xs ys
  | _, _ => false
termination_by structural xs => xs

end

mutual

/-- The greatest number of arrays and objects around a part of the value. -/
def depth : Json → Nat
  | .arr xs => depthItems xs + 1
  | .obj ms => depthMembers ms + 1
  | _ => 0
termination_by structural v => v

def depthItems : List Json → Nat
  | [] => 0
  | x :: xs => max x.depth (depthItems xs)
termination_by structural xs => xs

def depthMembers : List (String × Json) → Nat
  | [] => 0
  | (_, x) :: ms => max x.depth (depthMembers ms)
termination_by structural ms => ms

end

mutual

/-- The value with the members of every object in order. -/
def sorted : Json → Json
  | .arr xs => .arr (sortedItems xs)
  | .obj ms => object (sortedMembers ms)
  | v => v
termination_by structural v => v

def sortedItems : List Json → List Json
  | [] => []
  | x :: xs => x.sorted :: sortedItems xs
termination_by structural xs => xs

def sortedMembers : List (String × Json) → List (String × Json)
  | [] => []
  | (k, x) :: ms => (k, x.sorted) :: sortedMembers ms
termination_by structural ms => ms

end

mutual

/-- Names ascend in every object, and integers fit a document. -/
def Canonical : Json → Prop
  | .num n => n.InRange
  | .arr xs => CanonicalItems xs
  | .obj ms => Assoc.Ascending ms ∧ CanonicalMembers ms
  | _ => True
termination_by structural v => v

def CanonicalItems : List Json → Prop
  | [] => True
  | x :: xs => x.Canonical ∧ CanonicalItems xs
termination_by structural xs => xs

def CanonicalMembers : List (String × Json) → Prop
  | [] => True
  | (_, x) :: ms => x.Canonical ∧ CanonicalMembers ms
termination_by structural ms => ms

end

end Json

end TopicClient
