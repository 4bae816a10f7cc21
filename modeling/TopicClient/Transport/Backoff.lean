import TopicClient.Settings.Basic

/-!
# Waiting between attempts

A duration is a count of seconds and of nanoseconds below a second, and its
arithmetic saturates at the greatest duration. The delay before an attempt
doubles with every failure up to a cap. A policy says what to do once too many
attempts have failed without success.
-/

namespace TopicClient

structure Duration where
  secs : UInt64
  nanos : UInt32
  nanos_lt : nanos < 1000000000
deriving DecidableEq, Repr

namespace Duration

def longest : Duration := ⟨18446744073709551615, 999999999, by decide⟩

instance : Inhabited Duration := ⟨⟨0, 0, by decide⟩⟩

def toNanos (d : Duration) : Nat := d.secs.toNat * 1000000000 + d.nanos.toNat

/-- Whole milliseconds. -/
def toMillis (d : Duration) : Nat := d.secs.toNat * 1000 + d.nanos.toNat / 1000000

/-- The nanoseconds of a second that are left over. -/
def rest (n : Nat) : UInt32 := UInt32.ofNat (n % 1000000000)

theorem rest_lt (n : Nat) : rest n < 1000000000 := by
  rw [rest, UInt32.lt_iff_toNat_lt, UInt32.toNat_ofNat']
  have h : n % 1000000000 < 1000000000 := Nat.mod_lt _ (by decide)
  have h' : (1000000000 : UInt32).toNat = 1000000000 := rfl
  omega

/-- Whole seconds among the nanoseconds are carried. -/
def ofParts (secs : UInt64) (nanos : UInt32) : Duration :=
  ⟨secs + UInt64.ofNat (nanos.toNat / 1000000000), rest nanos.toNat, rest_lt _⟩

def ofMillis (ms : UInt64) : Duration :=
  ⟨ms / 1000, rest (ms.toNat % 1000 * 1000000), rest_lt _⟩

/-- Seconds and nanoseconds are multiplied on their own; whole seconds among the
nanoseconds are carried. -/
def saturatingMul (d : Duration) (k : Nat) : Duration :=
  let nanos := d.nanos.toNat * k
  let secs := d.secs.toNat * k + nanos / 1000000000
  if secs < UInt64.size then ⟨UInt64.ofNat secs, rest nanos, rest_lt _⟩ else longest

end Duration

/-- The delay after so many failures in a row. -/
def reconnectDelay (attempts : UInt32) (unit : Duration) (cap : UInt32) : Duration :=
  unit.saturatingMul (1 <<< min (min attempts.toNat cap.toNat) 31)

inductive GiveUpAction where
  | proceed
  | stop
  | report
deriving DecidableEq, Repr

/-- What to do before attempt number `attempt`. The policy counts only for a socket
that was never healthy and only beyond the threshold. -/
def giveUpAction (policy : GiveUpPolicy) (after attempt : UInt32) (success reported : Bool) :
    GiveUpAction :=
  if success || attempt ≤ after then .proceed
  else
    match policy with
    | .never => .proceed
    | .stop => .stop
    | .notify => if reported then .proceed else .report

end TopicClient
