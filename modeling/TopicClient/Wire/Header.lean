import TopicClient.Json.Printer
import TopicClient.Json.Record
import TopicClient.Message

/-!
# Header lines

A header is one object whose members are named by single letters, in a fixed
order and without the absent ones. The two versions of the protocol have their
own letters. Version 1 knows neither correlation, errors nor metadata, tells a
full update by a flag that counts if it is truthy, and lists its cursors as
objects; an entry without a topic is no cursor.
-/

namespace TopicClient

inductive Version where
  | v1
  | v2
deriving DecidableEq, Repr

namespace Version

/-- The current version. -/
def current : Version := .v2

instance : Inhabited Version := ⟨current⟩

def name : Version → String
  | v1 => "v1"
  | v2 => "v2"

def ofName? : String → Option Version
  | "v1" => some v1
  | "v2" => some v2
  | _ => none

end Version

namespace Wire

open Json Json.Draft

def field {α : Type} (name : String) (value : α → Json) : Option α → List (String × Json)
  | none => []
  | some a => [(name, value a)]

def codeJson (c : UInt8) : Json := Json.nat c.toNat

def idJson (id : UInt64) : Json := Json.nat id.toNat

def tsJson (ts : Int64) : Json := Json.int ts.toInt

namespace V2

def errorJson (e : ServerError) : Json :=
  .obj ([("s", codeJson e.origin.code), ("m", .str e.message)] ++ field "c" tsJson e.code)

def cursorsJson (c : Cursors) : Json :=
  .obj (c.entries.map fun e => (e.1, tsJson e.2))

def metadataJson (m : Metadata) : Json :=
  .obj (m.entries.map fun e => (e.1, .str e.2))

def header (m : Message) : List (String × Json) :=
  [("t", codeJson m.kind.code)] ++ field "i" idJson m.id ++ field "e" errorJson m.error ++
    field "u" .str m.uri ++ field "s" tsJson m.ts ++
    field "p" (fun u => codeJson u.code) m.update ++
    field "b" cursorsJson m.subscriptions ++ field "m" metadataJson m.metadata

def error? (d : Draft) : Option ServerError := do
  match ← d.fields? ["s", "m", "c"] with
  | [s, m, c] =>
    some {
      origin := Origin.ofCode (← fieldOr 0 uint8? s)
      message := ← fieldOr "" string? m
      code := ← fieldOption int64? c }
  | _ => none

def ofHeader? (d : Draft) : Option Message := do
  match ← d.fields? ["t", "i", "e", "u", "s", "p", "b", "m"] with
  | [t, i, e, u, s, p, b, m] =>
    some {
      kind := ((← fieldOption uint8? t).map MessageKind.ofCode).getD .publish
      id := ← fieldOption uint64? i
      error := ← fieldOption error? e
      uri := ← fieldOption string? u
      ts := ← fieldOption int64? s
      update := (← fieldOption uint8? p).map UpdateKind.ofCode
      subscriptions := (← fieldOption (entries? int64?) b).map Cursors.ofList
      metadata := (← fieldOption (entries? string?) m).map Metadata.ofList }
  | _ => none

end V2

namespace V1

def cursorsJson (c : Cursors) : Json :=
  .arr (c.entries.map fun e => .obj [("s", .str e.1), ("n", tsJson e.2)])

def header (m : Message) : List (String × Json) :=
  [("t", codeJson m.kind.code)] ++ field "s" .str m.uri ++ field "n" tsJson m.ts ++
    (if m.update = some .full then [("f", Json.nat 1)] else []) ++
    field "u" cursorsJson m.subscriptions

def isTruthy : Json → Bool
  | .null => false
  | .bool b => b
  | .num (.int i) => i != 0
  | .num (.float x) => !x.isZero
  | .str s => s != ""
  | .arr _ | .obj _ => true

def cursor? (d : Draft) : Option (String × Int64) := do
  match ← d.fields? ["s", "n"] with
  | [s, n] => some (← fieldOr "" string? s, ← fieldOr 0 int64? n)
  | _ => none

def cursorsOf (entries : List (String × Int64)) : Cursors :=
  Cursors.ofList (entries.filter fun e => e.1 != "")

/-- The flag nests one level inside the header. -/
def ofHeader? (d : Draft) : Option Message := do
  match ← d.fields? ["t", "s", "n", "f", "u"] with
  | [t, s, n, f, u] =>
    let full := ((← fieldOption (Draft.json? (nestingLimit - 1)) f).map isTruthy).getD false
    some {
      kind := ((← fieldOption uint8? t).map MessageKind.ofCode).getD .publish
      uri := ← fieldOption string? s
      ts := ← fieldOption int64? n
      update := if full then some .full else none
      subscriptions := (← fieldOption (list? cursor?) u).map cursorsOf }
  | _ => none

end V1

def header (v : Version) (m : Message) : Json :=
  match v with
  | .v1 => .obj (V1.header m)
  | .v2 => .obj (V2.header m)

/-- The message of a header, still without its body. -/
def ofHeader? (v : Version) (d : Draft) : Option Message :=
  match v with
  | .v1 => V1.ofHeader? d
  | .v2 => V2.ofHeader? d

end Wire

end TopicClient
