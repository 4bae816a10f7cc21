import TopicClient.Json.Draft
import TopicClient.Text.Split

/-!
# Tables of codes

Properties of characters as data. A row gives a value to a range of codes, and the
rows of a table ascend. Tables are written as text, in base sixteen, with blanks or
line ends between two rows: `300-314=e6 315=e8`.
-/

namespace TopicClient.Text

/-- Rows of the first code, the last code and the value. -/
structure CodeTable (α : Type) where
  rows : Array (Nat × Nat × α)

def hexNumber (cs : List Char) : Nat :=
  cs.foldl (fun n c => n * 16 + (Json.hexDigit? c).getD 0) 0

/-- The rows of a text, each as its codes and its value. -/
def tableRows (text : String) : List (List Char × List Char) :=
  let rows := parts ' ' (text.toList.map fun c => if c = '\n' then ' ' else c)
  (rows.filter (· ≠ [])).map (splitFirst '=')

/-- A code, or the first and the last of several. -/
def codeRange (cs : List Char) : Nat × Nat :=
  match splitFirst '-' cs with
  | (first, []) => (hexNumber first, hexNumber first)
  | (first, last) => (hexNumber first, hexNumber last)

namespace CodeTable

variable {α : Type}

/-- Reads a table, and its values by `value`. -/
def read (value : List Char → α) (text : String) : CodeTable α :=
  ⟨((tableRows text).map fun (codes, v) =>
    let (first, last) := codeRange codes
    (first, last, value v)).toArray⟩

/-- The value of a code by the rows from `low` up to `high`. -/
def search (t : CodeTable α) (code low high : Nat) : Option α :=
  if low < high then
    let middle := (low + high) / 2
    match t.rows[middle]? with
    | some (first, last, value) =>
      if code < first then search t code low middle
      else if last < code then search t code (middle + 1) high
      else some value
    | none => none
  else none
termination_by high - low

def get? (code : Nat) (t : CodeTable α) : Option α := t.search code 0 t.rows.size

def find? (c : Char) (t : CodeTable α) : Option α := t.get? c.toNat

end CodeTable

/-- A set of characters, as a table without values. -/
abbrev CodeSet := CodeTable Unit

def CodeSet.read (text : String) : CodeSet := CodeTable.read (fun _ => ()) text

def CodeSet.contains (c : Char) (s : CodeSet) : Bool := (s.find? c).isSome

/-! ## Spellings -/

def spelling (cs : List Char) : List Char :=
  (parts '+' cs).map fun code => Char.ofNat (hexNumber code)

/-- The spellings that a row gives, code by code. `b8=20+327,31` spells the codes from
`b8` on; `41-5a=61` spells each code of a range as a later one, and `100-12e/2=101`
every second code of a range. -/
def spellingRow (codes value : List Char) : List (Nat × List Char) :=
  let (range, step) := splitFirst '/' codes
  let (first, last) := codeRange range
  if first = last then
    ((parts ',' value).zipIdx first).map fun (s, code) => (code, spelling s)
  else
    let step := max 1 (hexNumber step)
    (List.range' first ((last - first) / step + 1) step).map fun code =>
      (code, [Char.ofNat (hexNumber value + (code - first))])

/-- Reads a table of spellings. -/
def CodeTable.spellings (text : String) : CodeTable (List Char) :=
  ⟨(((tableRows text).flatMap fun (codes, value) => spellingRow codes value).map
    fun (code, s) => (code, code, s)).toArray⟩

end TopicClient.Text
