import TopicClient.Json.Draft

/-!
# Records read from drafts

A record with fixed fields is read from an object, in which unknown members are
skipped and a known one may stand only once, or from an array, whose items are
the fields in order and may stop early. A missing field is `none`; a field that
may be absent is absent also where it is null.
-/

namespace TopicClient.Json.Draft

def named (name : String) (members : List (Option String × Draft)) : List Draft :=
  members.filterMap fun m => if m.1 = some name then some m.2 else none

/-- The fields of the record, in the order of their names. -/
def fields? (names : List String) : Draft → Option (List (Option Draft))
  | .obj ms =>
    if ms.all (·.1.isSome) && names.all (fun name => (named name ms).length ≤ 1) then
      some (names.map fun name => (named name ms).head?)
    else none
  | .arr xs =>
    if xs.length ≤ names.length then
      some ((List.range names.length).map fun i => xs[i]?)
    else none
  | _ => none

/-- A field that takes a fixed value where it is missing. -/
def fieldOr {α : Type} (fallback : α) (read : Draft → Option α) :
    Option Draft → Option α
  | none => some fallback
  | some d => read d

/-- A field that may be missing or null. -/
def fieldOption {α : Type} (read : Draft → Option α) :
    Option Draft → Option (Option α)
  | none => some none
  | some .null => some none
  | some d => (read d).map some

def intBetween? (low high : Int) : Draft → Option Int
  | .num (some (.int i)) => if low ≤ i ∧ i ≤ high then some i else none
  | _ => none

def uint8? (d : Draft) : Option UInt8 :=
  (d.intBetween? 0 255).map fun i => UInt8.ofNat i.toNat

def uint32? (d : Draft) : Option UInt32 :=
  (d.intBetween? 0 0xFFFFFFFF).map fun i => UInt32.ofNat i.toNat

def uint64? (d : Draft) : Option UInt64 :=
  (d.intBetween? 0 0xFFFFFFFFFFFFFFFF).map fun i => UInt64.ofNat i.toNat

def int64? (d : Draft) : Option Int64 :=
  (d.intBetween? (-0x8000000000000000) 0x7FFFFFFFFFFFFFFF).map Int64.ofInt

def bool? : Draft → Option Bool
  | .bool b => some b
  | _ => none

def string? : Draft → Option String
  | .str s => s
  | _ => none

def list? {α : Type} (read : Draft → Option α) : Draft → Option (List α)
  | .arr xs => xs.mapM read
  | _ => none

/-- The members of an object that is no record, in text order. -/
def entries? {α : Type} (read : Draft → Option α) : Draft → Option (List (String × α))
  | .obj ms => ms.mapM fun m => do some (← m.1, ← read m.2)
  | _ => none

/-- A bare name, also written as an object with that one member, null. -/
def variant? : Draft → Option String
  | .str s => s
  | .obj [(name, .null)] => name
  | _ => none

end TopicClient.Json.Draft
