import Mathlib.Tactic.Ring
import TopicClient.Transport.Backoff

/-!
# Durations in nanoseconds

A duration is told by its nanoseconds, which order durations as their seconds and nanoseconds
do. Multiplying one is multiplying them, up to the greatest duration; so the delay after some
failures is the unit doubled that often, and it grows with the failures, the cap and the unit.
-/

namespace TopicClient

namespace Duration

theorem toNat_rest (n : Nat) : (rest n).toNat = n % 1000000000 := by
  rw [rest, UInt32.toNat_ofNat']
  have hlt : n % 1000000000 < 1000000000 := Nat.mod_lt _ (by decide)
  omega

theorem nanos_toNat_lt (d : Duration) : d.nanos.toNat < 1000000000 :=
  UInt32.lt_iff_toNat_lt.mp d.nanos_lt

theorem toNanos_le (d : Duration) : d.toNanos ≤ longest.toNanos := by
  have hsecs := d.secs.toNat_lt
  have hnanos := d.nanos_toNat_lt
  have hlongest : longest.toNanos = 18446744073709551615999999999 := rfl
  rw [hlongest, toNanos]
  omega

theorem eq_of_toNanos {d d' : Duration} (h : d.toNanos = d'.toNanos) : d = d' := by
  have hnanos := d.nanos_toNat_lt
  have hnanos' := d'.nanos_toNat_lt
  rw [toNanos, toNanos] at h
  have hsecs : d.secs = d'.secs := UInt64.toNat_inj.mp (by omega)
  have hrest : d.nanos = d'.nanos := UInt32.toNat_inj.mp (by omega)
  cases d
  cases d'
  cases hsecs
  cases hrest
  rfl

theorem toNanos_ofMillis (ms : UInt64) : (ofMillis ms).toNanos = ms.toNat * 1000000 := by
  have hsecs : (ms / 1000).toNat = ms.toNat / 1000 := UInt64.toNat_div ms 1000
  rw [toNanos, ofMillis, hsecs, toNat_rest]
  omega

/-- The carry keeps the nanoseconds of a product, unless the seconds overflow. -/
theorem toNanos_saturatingMul (d : Duration) (k : Nat) :
    (d.saturatingMul k).toNanos = min (d.toNanos * k) longest.toNanos := by
  have hlongest : longest.toNanos = 18446744073709551615999999999 := rfl
  have hsize : UInt64.size = 18446744073709551616 := rfl
  have hproduct : d.toNanos * k = d.secs.toNat * k * 1000000000 + d.nanos.toNat * k := by
    rw [toNanos]
    ring
  rw [saturatingMul, hproduct, hlongest]
  by_cases hfits : d.secs.toNat * k + d.nanos.toNat * k / 1000000000 < UInt64.size
  · rw [if_pos hfits, toNanos, toNat_rest, UInt64.toNat_ofNat']
    omega
  · rw [if_neg hfits, hlongest]
    omega

/-- The parts of a duration are those of its nanoseconds. -/
theorem secs_nanos_toNat (d : Duration) :
    d.secs.toNat = d.toNanos / 1000000000 ∧ d.nanos.toNat = d.toNanos % 1000000000 := by
  have hnanos := d.nanos_toNat_lt
  rw [toNanos]
  omega

/-- Seconds count first, and nanoseconds among equal seconds. -/
instance : LE Duration :=
  ⟨fun d e => d.secs < e.secs ∨ d.secs = e.secs ∧ d.nanos ≤ e.nanos⟩

theorem le_iff_toNanos {d e : Duration} : d ≤ e ↔ d.toNanos ≤ e.toNanos := by
  have hd := d.nanos_toNat_lt
  have he := e.nanos_toNat_lt
  change d.secs < e.secs ∨ d.secs = e.secs ∧ d.nanos ≤ e.nanos ↔ _
  rw [UInt64.lt_iff_toNat_lt, ← UInt64.toNat_inj, UInt32.le_iff_toNat_le, toNanos, toNanos]
  omega

end Duration

theorem toNanos_reconnectDelay (attempts : UInt32) (unit : Duration) (cap : UInt32) :
    (reconnectDelay attempts unit cap).toNanos =
      min (unit.toNanos * 2 ^ min (min attempts.toNat cap.toNat) 31) Duration.longest.toNanos := by
  rw [reconnectDelay, Duration.toNanos_saturatingMul, Nat.one_shiftLeft]

/-- How often a delay doubles its unit. -/
def doublings (attempts cap : UInt32) : UInt32 := min (min attempts cap) 31

theorem toNat_doublings (attempts cap : UInt32) :
    (doublings attempts cap).toNat = min (min attempts.toNat cap.toNat) 31 := by
  rw [doublings, UInt32.toNat_min, UInt32.toNat_min]
  rfl

theorem doublings_toNat_lt (attempts cap : UInt32) : (doublings attempts cap).toNat < 32 := by
  rw [toNat_doublings]
  omega

/-- A word holds the factor of every delay. -/
theorem toNat_one_shiftLeft_doublings (attempts cap : UInt32) :
    ((1 : UInt32) <<< doublings attempts cap).toNat = 2 ^ (doublings attempts cap).toNat := by
  have hlt := doublings_toNat_lt attempts cap
  have hfits : 2 ^ (doublings attempts cap).toNat < 2 ^ 32 :=
    Nat.pow_lt_pow_right (by decide) hlt
  have hone : (1 : UInt32).toNat = 1 := rfl
  rw [UInt32.toNat_shiftLeft, Nat.mod_eq_of_lt hlt, hone, Nat.one_shiftLeft, Nat.mod_eq_of_lt hfits]

section Growth
variable {attempts attempts' cap cap' : UInt32} {unit unit' : Duration}

theorem doublings_mono (hattempts : attempts ≤ attempts') (hcap : cap ≤ cap') :
    (doublings attempts cap).toNat ≤ (doublings attempts' cap').toNat := by
  rw [UInt32.le_iff_toNat_le] at hattempts hcap
  rw [toNat_doublings, toNat_doublings]
  omega

theorem reconnectDelay_mono (hattempts : attempts ≤ attempts') (hcap : cap ≤ cap')
    (hunit : unit ≤ unit') :
    reconnectDelay attempts unit cap ≤ reconnectDelay attempts' unit' cap' := by
  have hdoublings := doublings_mono hattempts hcap
  rw [toNat_doublings, toNat_doublings] at hdoublings
  rw [Duration.le_iff_toNanos] at hunit ⊢
  rw [toNanos_reconnectDelay, toNanos_reconnectDelay]
  exact min_le_min_right _ (Nat.mul_le_mul hunit (Nat.pow_le_pow_right (by decide) hdoublings))

theorem le_reconnectDelay (attempts : UInt32) (unit : Duration) (cap : UInt32) :
    unit ≤ reconnectDelay attempts unit cap := by
  rw [Duration.le_iff_toNanos, toNanos_reconnectDelay]
  exact le_min (Nat.le_mul_of_pos_right _ (Nat.two_pow_pos _)) unit.toNanos_le

end Growth

/-- A delay is its unit times a power of two to the nanosecond, or the longest duration if that
is too long for one. The factor fits a word, and more attempts, a greater cap or a longer unit
never make the delay shorter. -/
theorem reconnectDelay_exact (attempts cap : UInt32) (unit : Duration) :
    let factor := (1 : UInt32) <<< doublings attempts cap
    let exact := unit.toNanos * 2 ^ min (min attempts.toNat cap.toNat) 31
    let delay := reconnectDelay attempts unit cap
    (doublings attempts cap < 32 ∧ factor.toNat = 2 ^ min (min attempts.toNat cap.toNat) 31 ∧
      delay = unit.saturatingMul factor.toNat) ∧
    (exact < 2 ^ 64 * 1000000000 →
      delay.secs.toNat = exact / 1000000000 ∧ delay.nanos.toNat = exact % 1000000000) ∧
    (2 ^ 64 * 1000000000 ≤ exact → delay = Duration.longest) ∧
    (∀ attempts', attempts ≤ attempts' → delay ≤ reconnectDelay attempts' unit cap) ∧
    (∀ cap', cap ≤ cap' → delay ≤ reconnectDelay attempts unit cap') ∧
    (∀ unit', unit ≤ unit' → delay ≤ reconnectDelay attempts unit' cap) ∧
    unit ≤ delay := by
  intro factor exact delay
  have hfactor : factor.toNat = 2 ^ min (min attempts.toNat cap.toNat) 31 := by
    rw [toNat_one_shiftLeft_doublings, toNat_doublings]
  have hnanos : delay.toNanos = min exact Duration.longest.toNanos :=
    toNanos_reconnectDelay attempts unit cap
  have hlongest : Duration.longest.toNanos = 18446744073709551615999999999 := rfl
  refine ⟨⟨?_, hfactor, ?_⟩, ?_, ?_, ?_, ?_, ?_, le_reconnectDelay attempts unit cap⟩
  · rw [UInt32.lt_iff_toNat_lt]
    exact doublings_toNat_lt attempts cap
  · rw [hfactor, ← Nat.one_shiftLeft]
    rfl
  · intro hfits
    have hexact : delay.toNanos = exact := by omega
    rw [← hexact]
    exact delay.secs_nanos_toNat
  · intro htoo
    apply Duration.eq_of_toNanos
    omega
  · intro attempts' hattempts
    exact reconnectDelay_mono hattempts (UInt32.le_refl cap) (Duration.le_iff_toNanos.mpr le_rfl)
  · intro cap' hcap
    exact reconnectDelay_mono (UInt32.le_refl attempts) hcap (Duration.le_iff_toNanos.mpr le_rfl)
  · intro unit' hunit
    exact reconnectDelay_mono (UInt32.le_refl attempts) (UInt32.le_refl cap) hunit

/-- A unit of half the seconds that there are, less a nanosecond, can just be doubled. -/
theorem reconnectDelay_exact_at_edge :
    let half : Duration := ⟨9223372036854775807, 999999999, by decide⟩
    let more : Duration := ⟨9223372036854775808, 0, by decide⟩
    ((reconnectDelay 1 half 12).secs.toNat = 18446744073709551615 ∧
      (reconnectDelay 1 half 12).nanos.toNat = 999999998) ∧
    reconnectDelay 1 more 12 = Duration.longest ∧
    reconnectDelay 1 half 12 ≤ reconnectDelay 100 half 12 ∧
    reconnectDelay 1 half 12 ≤ reconnectDelay 1 half 40 ∧
    reconnectDelay 1 half 12 ≤ reconnectDelay 1 more 12 := by
  intro half more
  obtain ⟨-, hfits, -, hattempts, hcap, hunit, -⟩ := reconnectDelay_exact 1 12 half
  obtain ⟨-, -, htoo, -⟩ := reconnectDelay_exact 1 12 more
  obtain ⟨hsecs, hnanos⟩ := hfits (by decide)
  exact ⟨⟨hsecs.trans (by decide), hnanos.trans (by decide)⟩, htoo (by decide),
    hattempts 100 (by decide), hcap 40 (by decide), hunit more (.inl (by decide))⟩

end TopicClient
