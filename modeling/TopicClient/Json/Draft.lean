import TopicClient.Json.Literal

/-!
# Texts and their drafts

A draft is the tree of a text before it is given a meaning: members stand in
text order with their repetitions, and a scalar that denotes nothing (a number
out of range, half of a surrogate pair) is kept as `none`. Whether such a part
matters is decided by who reads the draft, so a reader that skips a member
skips its faults too.
-/

namespace TopicClient.Json

inductive Draft where
  | null
  | bool (b : Bool)
  | num (n : Option Number)
  | str (s : Option String)
  | arr (items : List Draft)
  | obj (members : List (Option String × Draft))
deriving Repr, Inhabited

def isBlank (c : Char) : Bool :=
  c = ' ' || c = '\t' || c = '\n' || c = '\r'

def skipBlanks : List Char → List Char
  | [] => []
  | c :: cs => if isBlank c then skipBlanks cs else c :: cs

def hexDigit? (c : Char) : Option Nat :=
  if '0' ≤ c ∧ c ≤ '9' then some (c.toNat - '0'.toNat)
  else if 'a' ≤ c ∧ c ≤ 'f' then some (c.toNat - 'a'.toNat + 10)
  else if 'A' ≤ c ∧ c ≤ 'F' then some (c.toNat - 'A'.toNat + 10)
  else none

def hexCode? (a b c d : Char) : Option Nat := do
  some ((((← hexDigit? a) * 16 + (← hexDigit? b)) * 16 + (← hexDigit? c)) * 16 +
    (← hexDigit? d))

/-- A character of a string literal, or one half of a surrogate pair. -/
inductive Piece where
  | char (c : Char)
  | high (n : Nat)
  | low (n : Nat)
deriving Repr

def Piece.ofCode (n : Nat) : Piece :=
  if 0xD800 ≤ n ∧ n < 0xDC00 then .high (n - 0xD800)
  else if 0xDC00 ≤ n ∧ n < 0xE000 then .low (n - 0xDC00)
  else .char (Char.ofNat n)

/-- Halves pair up in order; one that stands alone denotes no text. -/
def joinPieces? : List Piece → Option (List Char)
  | [] => some []
  | .char c :: ps => (joinPieces? ps).map (c :: ·)
  | .high h :: .low l :: ps =>
    (joinPieces? ps).map (Char.ofNat (0x10000 + h * 0x400 + l) :: ·)
  | _ :: _ => none

def escaped? (c : Char) : Option Char :=
  if c = '"' ∨ c = '\\' ∨ c = '/' then some c
  else if c = 'b' then some (Char.ofNat 8)
  else if c = 'f' then some (Char.ofNat 12)
  else if c = 'n' then some '\n'
  else if c = 'r' then some '\r'
  else if c = 't' then some '\t'
  else none

/-- The rest of a string literal after its opening quote. -/
def scanString? : List Char → Option (List Piece × List Char)
  | [] => none
  | '"' :: cs => some ([], cs)
  | '\\' :: 'u' :: a :: b :: c :: d :: cs => do
    let n ← hexCode? a b c d
    let (ps, rest) ← scanString? cs
    some (Piece.ofCode n :: ps, rest)
  | '\\' :: e :: cs => do
    let c ← escaped? e
    let (ps, rest) ← scanString? cs
    some (.char c :: ps, rest)
  | c :: cs =>
    if c.toNat < 32 then none
    else do
      let (ps, rest) ← scanString? cs
      some (.char c :: ps, rest)

def stringOf? (ps : List Piece) : Option String :=
  (joinPieces? ps).map String.ofList

namespace Draft

mutual

/-- One value at the front. The counter bounds the steps; one more than the
length of the text is enough, since every step takes a character. -/
def takeValue? : Nat → List Char → Option (Draft × List Char)
  | 0, _ => none
  | n + 1, cs =>
    match skipBlanks cs with
    | 'n' :: 'u' :: 'l' :: 'l' :: cs => some (.null, cs)
    | 't' :: 'r' :: 'u' :: 'e' :: cs => some (.bool true, cs)
    | 'f' :: 'a' :: 'l' :: 's' :: 'e' :: cs => some (.bool false, cs)
    | '"' :: cs => do
      let (ps, cs) ← scanString? cs
      some (.str (stringOf? ps), cs)
    | '[' :: cs =>
      match skipBlanks cs with
      | ']' :: cs => some (.arr [], cs)
      | cs => do
        let (x, cs) ← takeValue? n cs
        let (xs, cs) ← takeItems? n cs
        some (.arr (x :: xs), cs)
    | '\x7b' :: cs =>
      match skipBlanks cs with
      | '\x7d' :: cs => some (.obj [], cs)
      | cs => do
        let (m, cs) ← takeMember? n cs
        let (ms, cs) ← takeMembers? n cs
        some (.obj (m :: ms), cs)
    | cs => do
      let (l, cs) ← Literal.scan? cs
      some (.num l.number?, cs)
termination_by structural n => n

/-- The items after the first, with the closing bracket. -/
def takeItems? : Nat → List Char → Option (List Draft × List Char)
  | 0, _ => none
  | n + 1, cs =>
    match skipBlanks cs with
    | ']' :: cs => some ([], cs)
    | ',' :: cs => do
      let (x, cs) ← takeValue? n cs
      let (xs, cs) ← takeItems? n cs
      some (x :: xs, cs)
    | _ => none
termination_by structural n => n

def takeMember? : Nat → List Char → Option ((Option String × Draft) × List Char)
  | 0, _ => none
  | n + 1, cs =>
    match skipBlanks cs with
    | '"' :: cs => do
      let (ps, cs) ← scanString? cs
      match skipBlanks cs with
      | ':' :: cs => do
        let (x, cs) ← takeValue? n cs
        some ((stringOf? ps, x), cs)
      | _ => none
    | _ => none
termination_by structural n => n

/-- The members after the first, with the closing brace. -/
def takeMembers? : Nat → List Char → Option (List (Option String × Draft) × List Char)
  | 0, _ => none
  | n + 1, cs =>
    match skipBlanks cs with
    | '\x7d' :: cs => some ([], cs)
    | ',' :: cs => do
      let (m, cs) ← takeMember? n cs
      let (ms, cs) ← takeMembers? n cs
      some (m :: ms, cs)
    | _ => none
termination_by structural n => n

end

/-- The draft of a whole text. -/
def parse? (cs : List Char) : Option Draft := do
  let (d, rest) ← takeValue? (cs.length + 1) cs
  if (skipBlanks rest).isEmpty then some d else none

mutual

/-- The value of a draft all of whose parts denote something and that nests at
most `room` arrays and objects. -/
def json? : Nat → Draft → Option Json
  | _, .null => some .null
  | _, .bool b => some (.bool b)
  | _, .num n => n.map .num
  | _, .str s => s.map .str
  | room, .arr xs =>
    if room = 0 then none else (jsonItems? (room - 1) xs).map .arr
  | room, .obj ms =>
    if room = 0 then none else (jsonMembers? (room - 1) ms).map Json.object
termination_by structural _ d => d

def jsonItems? : Nat → List Draft → Option (List Json)
  | _, [] => some []
  | room, x :: xs => do
    let v ← json? room x
    let vs ← jsonItems? room xs
    some (v :: vs)
termination_by structural _ xs => xs

def jsonMembers? : Nat → List (Option String × Draft) → Option (List (String × Json))
  | _, [] => some []
  | room, (name, x) :: ms => do
    let k ← name
    let v ← json? room x
    let vs ← jsonMembers? room ms
    some ((k, v) :: vs)
termination_by structural _ ms => ms

end

mutual

/-- The draft of a value. -/
def ofJson : Json → Draft
  | .null => .null
  | .bool b => .bool b
  | .num n => .num (some n)
  | .str s => .str (some s)
  | .arr xs => .arr (ofItems xs)
  | .obj ms => .obj (ofMembers ms)
termination_by structural v => v

def ofItems : List Json → List Draft
  | [] => []
  | x :: xs => ofJson x :: ofItems xs
termination_by structural xs => xs

def ofMembers : List (String × Json) → List (Option String × Draft)
  | [] => []
  | (k, x) :: ms => (some k, ofJson x) :: ofMembers ms
termination_by structural ms => ms

end

end Draft

/-- A document may nest this many arrays and objects. -/
def nestingLimit : Nat := 127

def parseChars? (cs : List Char) : Option Json := do
  (← Draft.parse? cs).json? nestingLimit

def parse? (text : String) : Option Json := parseChars? text.toList

end TopicClient.Json
