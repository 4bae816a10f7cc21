import TopicClient.Json.Basic

/-!
# Number literals

A literal is scanned by its grammar alone and then valued. An integer that fits
64 bits stays an integer. Every other literal is a double: as many leading
digits as fit 64 bits, rounded once, and then scaled by a rounded power of ten.
That is not always the double nearest to the literal, and a literal too great
for a finite double has no value.
-/

namespace TopicClient.Json

def digit? (c : Char) : Option Nat :=
  if '0' ≤ c ∧ c ≤ '9' then some (c.toNat - '0'.toNat) else none

/-- The digits at the front, and what follows them. -/
def spanDigits : List Char → List Nat × List Char
  | [] => ([], [])
  | c :: cs =>
    match digit? c with
    | some d => let (ds, rest) := spanDigits cs; (d :: ds, rest)
    | none => ([], c :: cs)

def digitsValue (ds : List Nat) : Nat := ds.foldl (fun n d => n * 10 + d) 0

structure Literal where
  negative : Bool
  whole : List Nat
  fraction : Option (List Nat)
  exponent : Option Int
deriving DecidableEq, Repr

namespace Literal

def spanWhole? (cs : List Char) : Option (List Nat × List Char) :=
  match spanDigits cs with
  | ([], _) => none
  | ([0], rest) => some ([0], rest)
  | (0 :: _, _) => none
  | (ds, rest) => some (ds, rest)

def spanFraction? : List Char → Option (Option (List Nat) × List Char)
  | '.' :: cs =>
    match spanDigits cs with
    | ([], _) => none
    | (ds, rest) => some (some ds, rest)
  | cs => some (none, cs)

def spanSigned? (negative : Bool) (cs : List Char) : Option (Option Int × List Char) :=
  match spanDigits cs with
  | ([], _) => none
  | (ds, rest) =>
    let n : Int := digitsValue ds
    some (some (if negative then -n else n), rest)

def spanExponent? : List Char → Option (Option Int × List Char)
  | c :: cs =>
    if c = 'e' ∨ c = 'E' then
      match cs with
      | '+' :: cs => spanSigned? false cs
      | '-' :: cs => spanSigned? true cs
      | cs => spanSigned? false cs
    else some (none, c :: cs)
  | [] => some (none, [])

def scanUnsigned? (negative : Bool) (cs : List Char) : Option (Literal × List Char) := do
  let (whole, cs) ← spanWhole? cs
  let (fraction, cs) ← spanFraction? cs
  let (exponent, cs) ← spanExponent? cs
  some (⟨negative, whole, fraction, exponent⟩, cs)

/-- A sign, digits without a leading zero, and the optional parts, each with at
least one digit. -/
def scan? : List Char → Option (Literal × List Char)
  | '-' :: cs => scanUnsigned? true cs
  | cs => scanUnsigned? false cs

/-- Appends digits to a coefficient while it fits 64 bits; the others are returned. -/
def absorb (n : Nat) : List Nat → Nat × List Nat
  | [] => (n, [])
  | d :: ds => if n * 10 + d < UInt64.size then absorb (n * 10 + d) ds else (n, d :: ds)

/-- Divides by `10 ^ k` in steps of at most `10 ^ 308`. -/
def scaleDown? (x : Double) (k : Nat) : Option Double :=
  if k ≤ 308 then do x.div? (← Double.powerOfTen? k)
  else if x.isZero then some x
  else do
    let y ← x.div? (← Double.powerOfTen? 308)
    scaleDown? y (k - 308)
termination_by k

def scaleUp? (x : Double) (k : Nat) : Option Double :=
  if k ≤ 308 then do x.mul? (← Double.powerOfTen? k)
  else if x.isZero then some x
  else none

def double? (l : Literal) : Option Double := do
  let (n, wholeLeft) := absorb 0 l.whole
  let fraction := l.fraction.getD []
  let (n, fractionLeft) := absorb n fraction
  let shift : Int := wholeLeft.length - (fraction.length - fractionLeft.length : Nat)
  let e := shift + l.exponent.getD 0
  let x ← Double.ofNat? n
  let y ← if 0 ≤ e then scaleUp? x e.toNat else scaleDown? x (-e).toNat
  some (if l.negative then y.neg else y)

/-- An integer literal that fits 64 bits, signed or unsigned. Minus zero is none. -/
def int? (l : Literal) : Option Int :=
  if l.fraction.isSome || l.exponent.isSome then none
  else
    let n := digitsValue l.whole
    if l.negative then
      if 0 < n ∧ n ≤ 0x8000000000000000 then some (-n) else none
    else if n < UInt64.size then some n
    else none

def number? (l : Literal) : Option Number :=
  match l.int? with
  | some i => some (.int i)
  | none => l.double?.map .float

end Literal

end TopicClient.Json
