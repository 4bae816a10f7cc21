/-!
# Binary floating-point numbers

A finite double is a sign and a magnitude: the lower 63 bits of its IEEE 754
form read as a natural number. Magnitudes order like the absolute values they
stand for, and rounding is exact arithmetic on ratios of naturals, to the
nearest double and to the even one of two.
-/

namespace TopicClient.Json

/-- The least magnitude that stands for no finite number. -/
def infinity : Nat := 0x7FF0000000000000

structure Double where
  negative : Bool
  magnitude : Nat
  finite : magnitude < infinity
deriving DecidableEq, Repr

namespace Double

def zero : Double := ⟨false, 0, by decide⟩

instance : Inhabited Double := ⟨zero⟩

def isZero (x : Double) : Bool := x.magnitude = 0

def neg (x : Double) : Double := { x with negative := !x.negative }

/-- The two zeros are equal; otherwise sign and magnitude decide. -/
def same (x y : Double) : Bool :=
  (x.isZero && y.isZero) || (x.negative == y.negative && x.magnitude == y.magnitude)

/-- Position in the total order of doubles, where the negative zero precedes the
positive one. -/
def orderKey (x : Double) : Int :=
  if x.negative then -(x.magnitude : Int) - 1 else x.magnitude

/-- The least magnitude of a normal number. -/
def leastNormal : Nat := 0x10000000000000

def significand (x : Double) : Nat :=
  if x.magnitude < leastNormal then x.magnitude
  else x.magnitude % leastNormal + leastNormal

/-- The absolute value is `significand * 2 ^ exponent`. -/
def exponent (x : Double) : Int :=
  max (x.magnitude / leastNormal : Nat) 1 - 1075

/-- The absolute value as a ratio of naturals. -/
def ratio (x : Double) : Nat × Nat :=
  if 0 ≤ x.exponent then (x.significand <<< x.exponent.toNat, 1)
  else (x.significand, 1 <<< (-x.exponent).toNat)

/-- `num / den` rounded to an integer, a half to the even neighbour. -/
def roundHalfEven (num den : Nat) : Nat :=
  let q := num / den
  let r := num % den
  if 2 * r < den then q else if den < 2 * r then q + 1 else q + q % 2

/-- The floor of the binary logarithm of `num / den`. -/
def binaryLog (num den : Nat) : Int :=
  let k : Int := (Nat.log2 num : Int) - Nat.log2 den
  let below :=
    if 0 ≤ k then num < den <<< k.toNat else num <<< (-k).toNat < den
  if below then k - 1 else k

/-- The magnitude nearest to `num / den`, whether or not it is finite. -/
def nearestMagnitude (num den : Nat) : Nat :=
  if num = 0 then 0 else
    let e := max (binaryLog num den - 52) (-1074)
    let q :=
      if 0 ≤ e then roundHalfEven num (den <<< e.toNat)
      else roundHalfEven (num <<< (-e).toNat) den
    (e + 1074).toNat * leastNormal + q

/-- The double nearest to `num / den`, if it is finite. -/
def ofRatio? (negative : Bool) (num den : Nat) : Option Double :=
  let m := nearestMagnitude num den
  if h : m < infinity then some ⟨negative, m, h⟩ else none

def ofNat? (n : Nat) : Option Double := ofRatio? false n 1

/-- The nearest double of an integer; every 64-bit integer has one. -/
def ofInt (i : Int) : Double :=
  (ofRatio? (decide (i < 0)) i.natAbs 1).getD zero

def mul? (x y : Double) : Option Double :=
  ofRatio? (x.negative != y.negative) (x.ratio.1 * y.ratio.1) (x.ratio.2 * y.ratio.2)

/-- The quotient by a non-zero double. -/
def div? (x y : Double) : Option Double :=
  ofRatio? (x.negative != y.negative) (x.ratio.1 * y.ratio.2) (x.ratio.2 * y.ratio.1)

/-- The double nearest to a power of ten. -/
def powerOfTen? (k : Nat) : Option Double := ofRatio? false (Nat.pow 10 k) 1

theorem same_refl (x : Double) : x.same x = true := by
  simp [same]

end Double

end TopicClient.Json
