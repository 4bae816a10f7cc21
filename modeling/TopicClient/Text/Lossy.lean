/-!
# Texts of any bytes

Bytes read as UTF-8 where some of them may not be. A character that does not go on
as it began counts as one replacement character, up to the first byte that does
not fit; so does a byte that begins no character.
-/

namespace TopicClient.Text

/-- The bytes that may follow a first byte, as ranges; `none` for a byte that begins
no character. -/
def followers (b : Nat) : Option (List (Nat × Nat)) :=
  let any := (0x80, 0xBF)
  if b < 0x80 then some []
  else if b < 0xC2 then none
  else if b < 0xE0 then some [any]
  else if b = 0xE0 then some [(0xA0, 0xBF), any]
  else if b = 0xED then some [(0x80, 0x9F), any]
  else if b < 0xF0 then some [any, any]
  else if b = 0xF0 then some [(0x90, 0xBF), any, any]
  else if b < 0xF4 then some [any, any, any]
  else if b = 0xF4 then some [(0x80, 0x8F), any, any]
  else none

/-- How many bytes fit the ranges, one after the other. -/
def fitting : List (Nat × Nat) → List UInt8 → Nat
  | (low, high) :: ranges, b :: bytes =>
    if low ≤ b.toNat ∧ b.toNat ≤ high then fitting ranges bytes + 1 else 0
  | _, _ => 0

/-- The character that a first byte and its followers stand for. -/
def charOf (first : Nat) (rest : List UInt8) : Char :=
  let start := if rest.isEmpty then first else first % (1 <<< (6 - rest.length))
  Char.ofNat (rest.foldl (fun n b => n * 64 + b.toNat % 64) start)

def lossyChars (bytes : List UInt8) : List Char :=
  match bytes with
  | [] => []
  | b :: rest =>
    match followers b.toNat with
    | none => '\uFFFD' :: lossyChars rest
    | some ranges =>
      let n := fitting ranges rest
      let c := if n = ranges.length then charOf b.toNat (rest.take n) else '\uFFFD'
      c :: lossyChars (rest.drop n)
termination_by bytes.length

def lossy (bytes : List UInt8) : String := String.ofList (lossyChars bytes)

end TopicClient.Text
