import TopicClient.Json.Double

/-!
# Decimal text of numbers

Naturals and integers in decimal digits, and doubles by the shortest decimal
that reads back: of all decimals that round to the number, one with the fewest
digits, and of those the nearest, a tie going to the even last digit.
-/

namespace TopicClient.Json

def digitChar (d : Nat) : Char := Char.ofNat ('0'.toNat + d)

/-- The digits of a number, the last one first. -/
def digitsReversed (n : Nat) : List Char :=
  if n < 10 then [digitChar n] else digitChar (n % 10) :: digitsReversed (n / 10)
termination_by n

def natChars (n : Nat) : List Char := (digitsReversed n).reverse

def intChars : Int → List Char
  | .ofNat n => natChars n
  | .negSucc n => '-' :: natChars (n + 1)

def natText (n : Nat) : String := String.ofList (natChars n)

def intText (i : Int) : String := String.ofList (intChars i)

/-- `coefficient * 10 ^ exponent`. -/
structure Decimal where
  coefficient : Nat
  exponent : Int
deriving DecidableEq, Repr

/-- The reals that round to one double, as multiples of a common unit
`num / den`; `closed` tells whether the ends belong to it. -/
structure RoundingInterval where
  low : Nat
  value : Nat
  high : Nat
  num : Nat
  den : Nat
  closed : Bool

namespace RoundingInterval

/-- The unit is a quarter of the last place. Just above a power of two the
neighbour below is only half as far away. -/
def of (x : Double) : RoundingInterval :=
  let m := x.significand
  let low := if m = Double.leastNormal ∧ 2 * Double.leastNormal ≤ x.magnitude then 4 * m - 1 else 4 * m - 2
  let e := x.exponent - 2
  { low := low
    value := 4 * m
    high := 4 * m + 2
    num := 1 <<< e.toNat
    den := 1 <<< (-e).toNat
    closed := m % 2 = 0 }

/-- A multiple of the unit and a multiple of `10 ^ k`, over one denominator. -/
def scaled (i : RoundingInterval) (units c : Nat) (k : Int) : Nat × Nat :=
  (units * i.num * Nat.pow 10 (-k).toNat, c * Nat.pow 10 k.toNat * i.den)

def holds (i : RoundingInterval) (c : Nat) (k : Int) : Bool :=
  let (l, v) := i.scaled i.low c k
  let (h, w) := i.scaled i.high c k
  if i.closed then l ≤ v && w ≤ h else l < v && w < h

/-- The multiple of `10 ^ k` in the interval nearest to the value, if any: it is
one of the value's two neighbours on that grid. -/
def onGrid? (i : RoundingInterval) (k : Int) : Option Nat :=
  let (v, unit) := i.scaled i.value 1 k
  let c := v / unit
  let below := i.holds c k
  let above := i.holds (c + 1) k
  if below && above then
    let r := 2 * (v % unit)
    if r < unit || (r = unit && c % 2 = 0) then some c else some (c + 1)
  else if below then some c
  else if above then some (c + 1)
  else none

/-- Tries ever finer grids, from `10 ^ k` on. -/
def search (i : RoundingInterval) : Nat → Int → Decimal
  | 0, k => ⟨(i.onGrid? k).getD 0, k⟩
  | n + 1, k =>
    match i.onGrid? k with
    | some c => ⟨c, k⟩
    | none => i.search n (k - 1)

end RoundingInterval

/-- The shortest decimal of a non-zero double. The first grid is coarser than the
number, and eighteen steps reach seventeen digits, which always suffice. -/
def Double.shortest (x : Double) : Decimal :=
  let log := binaryLog x.ratio.1 x.ratio.2
  (RoundingInterval.of x).search 20 ((log + 1) * 30103 / 100000 + 2)

def zeros (n : Nat) : List Char := List.replicate n '0'

/-- Positional between `10 ^ -5` and `10 ^ 16`, always with a point; otherwise one
digit before the point and a signed exponent. -/
def Decimal.chars (d : Decimal) : List Char :=
  let ds := natChars d.coefficient
  let top := d.exponent + ds.length - 1
  if -5 ≤ top ∧ top < 16 then
    if 0 ≤ d.exponent then ds ++ zeros d.exponent.toNat ++ ['.', '0']
    else if 0 ≤ top then
      ds.take (top.toNat + 1) ++ '.' :: ds.drop (top.toNat + 1)
    else '0' :: '.' :: (zeros (-top - 1).toNat ++ ds)
  else
    let mantissa :=
      match ds with
      | d :: e :: rest => d :: '.' :: e :: rest
      | ds => ds
    let sign := if top < 0 then '-' else '+'
    mantissa ++ 'e' :: sign :: natChars top.natAbs

def Double.chars (x : Double) : List Char :=
  let body := if x.isZero then ['0', '.', '0'] else x.shortest.chars
  if x.negative then '-' :: body else body

end TopicClient.Json
