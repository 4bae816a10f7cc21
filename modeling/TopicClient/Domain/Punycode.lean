/-!
# Labels in ASCII

The form that writes a label of any characters in ASCII: the ASCII characters of the
label, a hyphen, and numbers that tell which character comes where. A number has
digits in base 36, the least first, and ends with a digit below a threshold that
adapts to the numbers read so far. Numbers are below 2^32.
-/

namespace TopicClient.Domain.Punycode

def digit? (c : Char) : Option Nat :=
  if 'a' ≤ c ∧ c ≤ 'z' then some (c.toNat - 'a'.toNat)
  else if '0' ≤ c ∧ c ≤ '9' then some (c.toNat - '0'.toNat + 26)
  else none

/-- The threshold of the digit at a place that counts in steps of 36. -/
def threshold (bias place : Nat) : Nat := min 26 (max 1 (place - bias))

def scaled (delta bias : Nat) : Nat :=
  if 455 < delta then scaled (delta / 35) (bias + 36) else bias + 36 * delta / (delta + 38)
termination_by delta

/-- The bias after a number, when the label has come to so many characters. -/
def adapted (isFirst : Bool) (delta length : Nat) : Nat :=
  let delta := if isFirst then delta / 700 else delta / 2
  scaled (delta + delta / length) 0

/-- A label half read: its characters, the last code and where it stood, and what has
been read of a number, if any. -/
structure Decoder where
  label : List Char
  code : Nat := 128
  start : Nat := 0
  bias : Nat := 72
  position : Nat := 0
  weight : Nat := 1
  place : Nat := 36

def word? (n : Nat) : Option Nat := if n < UInt32.size then some n else none

namespace Decoder

/-- The number read has come to an end: its character takes its place. -/
def insert? (d : Decoder) (position : Nat) : Option Decoder :=
  let length := d.label.length + 1
  let code := d.code + position / length
  let index := position % length
  if code.isValidChar then
    some {
      label := d.label.insertIdx index (Char.ofNat code)
      code
      start := index + 1
      bias := adapted (d.start = 0) (position - d.start) length
      position := index + 1 }
  else none

def step? (d : Decoder) (c : Char) : Option Decoder := do
  let digit ← digit? c
  let position ← word? (d.position + digit * d.weight)
  let limit := threshold d.bias d.place
  if digit < limit then d.insert? position
  else
    let weight ← word? (d.weight * (36 - limit))
    some { d with position, weight, place := d.place + 36 }

end Decoder

/-- The label that a text stands for. -/
def decode? (cs : List Char) : Option (List Char) := do
  let numbers := (cs.reverse.takeWhile (· ≠ '-')).reverse
  let basic := cs.take (cs.length - numbers.length - 1)
  let numbers := if basic.isEmpty then cs else numbers
  let d ← numbers.foldlM Decoder.step? { label := basic : Decoder }
  if d.place = 36 then some d.label else none

end TopicClient.Domain.Punycode
