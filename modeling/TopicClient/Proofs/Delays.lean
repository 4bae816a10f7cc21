import TopicClient.Proofs.Attempts
import TopicClient.Proofs.Durations

/-!
# Delays between attempts

The delay after an attempt depends on the attempts that have ended since the last healthy
one, and on nothing else. It doubles from one to the next until it has reached the cap or
the greatest duration.
-/

namespace TopicClient.Socket
variable {T : Type}

/-- How many attempts have ended since the last one that became healthy, which counts too;
or since the beginning if none did. -/
def sinceHealthy (endings : List Bool) : Nat :=
  match endings.reverse.idxOf? true with
  | some later => later + 1
  | none => endings.length

/-- The delay after so many attempts; the count stops at the greatest 32-bit number. -/
def delayAfter (settings : SocketSettings) (count : Nat) : Duration :=
  reconnectDelay (UInt32.ofNat (min count 4294967295)) (.ofMillis settings.reconnectUnitMs)
    settings.reconnectCap

theorem sinceHealthy_healthy (endings : List Bool) : sinceHealthy (endings ++ [true]) = 1 := by
  simp [sinceHealthy, List.idxOf?_cons]

theorem sinceHealthy_unhealthy (endings : List Bool) :
    sinceHealthy (endings ++ [false]) = sinceHealthy endings + 1 := by
  simp only [sinceHealthy, List.reverse_append, List.reverse_singleton, List.singleton_append,
    List.idxOf?_cons]
  cases endings.reverse.idxOf? true with
  | none => simp
  | some later => simp

theorem toNat_count (count : Nat) :
    (UInt32.ofNat (min count 4294967295)).toNat = min count 4294967295 := by
  rw [UInt32.toNat_ofNat']
  omega

theorem toNanos_delayAfter (settings : SocketSettings) (count : Nat) :
    (delayAfter settings count).toNanos =
      min (settings.reconnectUnitMs.toNat * 1000000 *
        2 ^ min count (min settings.reconnectCap.toNat 31)) Duration.longest.toNanos := by
  have hcap := settings.reconnectCap.toNat_lt
  have hexponent : min (min (min count 4294967295) settings.reconnectCap.toNat) 31 =
      min count (min settings.reconnectCap.toNat 31) := by omega
  rw [delayAfter, toNanos_reconnectDelay, toNat_count, Duration.toNanos_ofMillis, hexponent]

/-- The exponent grows with the count. -/
theorem toNanos_delayAfter_mono (settings : SocketSettings) {count more : Nat}
    (h : count ≤ more) :
    (delayAfter settings count).toNanos ≤ (delayAfter settings more).toNanos := by
  rw [toNanos_delayAfter, toNanos_delayAfter]
  have hexponent : min count (min settings.reconnectCap.toNat 31) ≤
      min more (min settings.reconnectCap.toNat 31) := by omega
  have hpow := Nat.pow_le_pow_right (n := 2) (by decide) hexponent
  have hproduct := Nat.mul_le_mul_left (settings.reconnectUnitMs.toNat * 1000000) hpow
  omega

theorem toNanos_delayAfter_double (settings : SocketSettings) {count : Nat}
    (hcap : count < min settings.reconnectCap.toNat 31)
    (hfits : delayAfter settings (count + 1) ≠ .longest) :
    (delayAfter settings (count + 1)).toNanos = 2 * (delayAfter settings count).toNanos := by
  have hbelow : (delayAfter settings (count + 1)).toNanos ≠ Duration.longest.toNanos :=
    fun heq => hfits (Duration.eq_of_toNanos heq)
  have hnext : min (count + 1) (min settings.reconnectCap.toNat 31) = count + 1 := by omega
  have hthis : min count (min settings.reconnectCap.toNat 31) = count := by omega
  rw [toNanos_delayAfter, hnext] at hbelow ⊢
  rw [toNanos_delayAfter, hthis]
  have hdouble : settings.reconnectUnitMs.toNat * 1000000 * 2 ^ (count + 1) =
      2 * (settings.reconnectUnitMs.toNat * 1000000 * 2 ^ count) := by
    rw [pow_succ]
    ring
  omega

/-- At the cap, and at the greatest duration, the delay does not grow any more. -/
theorem delayAfter_constant (settings : SocketSettings) {count more : Nat} (h : count ≤ more)
    (hend : min settings.reconnectCap.toNat 31 ≤ count ∨ delayAfter settings count = .longest) :
    delayAfter settings more = delayAfter settings count := by
  apply Duration.eq_of_toNanos
  rcases hend with hcap | hlongest
  · have hthis : min count (min settings.reconnectCap.toNat 31) =
        min more (min settings.reconnectCap.toNat 31) := by omega
    rw [toNanos_delayAfter, toNanos_delayAfter, hthis]
  · have hgrows := toNanos_delayAfter_mono settings h
    have hbound := (delayAfter settings more).toNanos_le
    rw [hlongest] at hgrows ⊢
    omega

theorem delayAfter_pos (settings : SocketSettings) (hunit : 0 < settings.reconnectUnitMs)
    (count : Nat) : 0 < (delayAfter settings count).toNanos := by
  have hunit : 0 < settings.reconnectUnitMs.toNat := UInt64.lt_iff_toNat_lt.mp hunit
  have hpow : 0 < 2 ^ min count (min settings.reconnectCap.toNat 31) := Nat.two_pow_pos _
  have hlongest : 0 < Duration.longest.toNanos := by decide
  rw [toNanos_delayAfter]
  have hproduct := Nat.mul_pos (Nat.mul_pos hunit (by decide : 0 < 1000000)) hpow
  omega

/-! ## Runs -/

theorem toNat_nextFailures (healthy : Bool) (failures : UInt32) :
    (nextFailures healthy failures).toNat =
      min ((if healthy then 0 else failures.toNat) + 1) 4294967295 := by
  have hlt := failures.toNat_lt
  cases healthy with
  | true => rfl
  | false =>
    by_cases hlast : failures = 4294967295
    · subst hlast
      rfl
    · have hbelow : failures.toNat ≠ 4294967295 := fun h => hlast (UInt32.toNat_inj.mp h)
      have hone : (1 : UInt32).toNat = 1 := rfl
      simp only [nextFailures, Bool.false_eq_true, if_false, if_neg hlast, UInt32.toNat_add, hone]
      omega

/-- The failures that a socket counts are the attempts that have ended since the last
healthy one. -/
structure Counted (settings : SocketSettings) (past : List Bool) (s : Socket T) : Prop where
  settings : s.settings = settings
  failures : s.failures.toNat = min (sinceHealthy past) 4294967295

theorem counted_start (settings : SocketSettings) (since : Nat) :
    Counted settings [] (start (T := T) settings since) :=
  ⟨rfl, rfl⟩

theorem attempt_failures (now : Nat) (s : Socket T) :
    (s.attempt now).1.settings = s.settings ∧ (s.attempt now).1.failures = s.failures := by
  simp only [attempt]
  split <;> exact ⟨rfl, rfl⟩

namespace Counted
variable {settings : SocketSettings} {past : List Bool} {s : Socket T}

/-- The count after one more attempt, which the code keeps within 32 bits. -/
theorem next (h : Counted settings past s) (healthy : Bool) :
    (nextFailures healthy s.failures).toNat =
      min (sinceHealthy (past ++ [healthy])) 4294967295 := by
  have hcount := h.failures
  rw [toNat_nextFailures]
  cases healthy with
  | true =>
    rw [sinceHealthy_healthy]
    rfl
  | false =>
    rw [sinceHealthy_unhealthy]
    simp only [Bool.false_eq_true, if_false]
    omega

theorem delay_eq (h : Counted settings past s) (healthy : Bool) :
    s.delay (nextFailures healthy s.failures) =
      (delayAfter settings (sinceHealthy (past ++ [healthy]))).toMillis := by
  have hcount : nextFailures healthy s.failures =
      UInt32.ofNat (min (sinceHealthy (past ++ [healthy])) 4294967295) := by
    apply UInt32.toNat_inj.mp
    rw [h.next, toNat_count]
  rw [delay, hcount, h.settings]
  rfl

theorem step (h : Counted settings past s) (hs : s.Steady) (now : Nat) {e : SocketEvent T}
    (he : e ≠ .cancel) :
    Counted settings (past ++ (s.ended? now e).toList) (s.step now e).1 := by
  cases turn_step s now he with
  | passes early kept =>
    rw [ended?_of_kept kept, Option.toList_none, List.append_nil]
    exact ⟨kept.settings.trans h.settings, by rw [kept.failures, h.failures]⟩
  | begins attempt due next =>
    obtain ⟨hsettings, hfailures⟩ := attempt_failures now s
    rw [ended?_of_due due, Option.toList_none, List.append_nil, next]
    exact ⟨hsettings.trans h.settings, by rw [hfailures, h.failures]⟩
  | @ends healthy hunder other ended =>
    rw [ended?_of_ended hs hunder ended, Option.toList_some]
    exact ⟨ended.settings.trans h.settings, by rw [ended.failures, h.next]⟩

end Counted

theorem counted_run (settings : SocketSettings) (since : Nat)
    {events : List (Nat × SocketEvent T)} (hkept : ∀ event ∈ events, event.2 ≠ .cancel) :
    Counted settings ((start settings since).endings events)
      ((start settings since).run events).1 := by
  induction events using List.reverseRecOn with
  | nil => exact counted_start settings since
  | append_singleton events event ih =>
    obtain ⟨now, e⟩ := event
    have hbefore := ih fun event hevent => hkept event (List.mem_append_left _ hevent)
    have hlast : e ≠ .cancel := hkept (now, e) (List.mem_append_right _ List.mem_cons_self)
    rw [endings_snoc, run_snoc]
    exact hbefore.step ((steady_start settings since).run events) now hlast

/-! ## The attempt counter -/

/-- The socket, if it had counted other attempts. -/
def withConnects (n : UInt32) (s : Socket T) : Socket T :=
  { s with status := { s.status with connects := n } }

/-- Only the decision to give up reads how many attempts there were. -/
theorem phase_withConnects (n : UInt32) (now : Nat) (s : Socket T) {e : SocketEvent T}
    (he : e ≠ .attempt) : ((s.withConnects n).step now e).1.phase = (s.step now e).1.phase := by
  have hsame : (s.withConnects n).phase = s.phase := rfl
  cases e with
  | attempt => exact absurd rfl he
  | enqueue f =>
    by_cases hstopped : s.phase = .stopped
    · simp only [step, refusal?, hsame, if_pos hstopped]
    · simp only [step, refusal?, hsame, if_neg hstopped]
  | dialed | dialFailed | serverClosed | readFailed | cancel =>
    cases hphase : s.phase <;> simp only [step, hsame, hphase] <;> rfl
  | dialTimedOut | pongOverdue =>
    cases hphase : s.phase <;> simp only [step, hsame, hphase]
    split <;> rfl
  | payload isPong =>
    cases hphase : s.phase with
    | connected c =>
      simp only [step, hphase, received, ConnectionStatus.onMessage, withConnects]
      cases isPong && !s.status.connected <;> rfl
    | _ => simp only [step, hsame, hphase]
  | write fault =>
    have hqueue : (s.withConnects n).queue = s.queue := rfl
    cases hphase : s.phase with
    | connected c =>
      simp only [step, hsame, hphase, write, hqueue]
      split <;> rfl
    | _ => simp only [step, hsame, hphase]
  | pingDue fault =>
    cases hphase : s.phase with
    | connected c =>
      simp only [step, hsame, hphase, ping]
      cases fault <;> split <;> rfl
    | _ => simp only [step, hsame, hphase]

/-! ## The delays of a run -/

theorem due_iff_of_waiting {s : Socket T} {deadline : Nat} (h : s.phase = .waiting deadline)
    (now : Nat) : s.due now = true ↔ deadline ≤ now := by
  simp only [due, h, decide_eq_true_iff]

/-- The delay after an attempt is that of the attempts that have ended since the last
healthy one. It doubles with their number up to the cap. -/
theorem delays_follow_failures (settings : SocketSettings) (since : Nat)
    {events : List (Nat × SocketEvent T)} (hkept : ∀ event ∈ events, event.2 ≠ .cancel) :
    let s := ((start settings since).run events).1
    let past := (start settings since).endings events
    (∀ now e, e ≠ .cancel → s.state = .healthy →
      (s.step now e).1.state = .healthy ∨ s.ended? now e = some true) ∧
    (∀ now e healthy, e ≠ .cancel → s.ended? now e = some healthy →
      let failures := sinceHealthy (past ++ [healthy])
      let deadline := now + (delayAfter settings failures).toMillis
      failures = (if healthy then 1 else sinceHealthy past + 1) ∧
      (s.step now e).1.phase = .waiting deadline ∧
      (∀ later, (s.step now e).1.due later = true ↔ deadline ≤ later) ∧
      (∀ n, ((s.withConnects n).step now e).1.phase = .waiting deadline)) ∧
    (∀ failures more, failures ≤ more →
      (delayAfter settings failures).toNanos ≤ (delayAfter settings more).toNanos) ∧
    (∀ failures, failures < min settings.reconnectCap.toNat 31 → 0 < settings.reconnectUnitMs →
      delayAfter settings (failures + 1) ≠ .longest →
      (delayAfter settings (failures + 1)).toNanos = 2 * (delayAfter settings failures).toNanos ∧
      (delayAfter settings failures).toNanos < (delayAfter settings (failures + 1)).toNanos) ∧
    (∀ failures more, failures ≤ more →
      min settings.reconnectCap.toNat 31 ≤ failures ∨ delayAfter settings failures = .longest →
      delayAfter settings more = delayAfter settings failures) := by
  intro s past
  have hsteady := (steady_start (T := T) settings since).run events
  have hcounted := counted_run settings since hkept
  refine ⟨?_, ?_, ?_, ?_, ?_⟩
  · intro now e he hhealthy
    exact hsteady.healthy_until_ended hhealthy now he
  · intro now e healthy he hended failures deadline
    obtain ⟨hunder, hother, hend⟩ := hsteady.ended he hended
    have hphase : (s.step now e).1.phase = .waiting deadline := by
      rw [hend.phase, hcounted.delay_eq]
    refine ⟨?_, hphase, due_iff_of_waiting hphase, ?_⟩
    · cases healthy with
      | true => exact sinceHealthy_healthy past
      | false => exact sinceHealthy_unhealthy past
    · intro n
      rw [phase_withConnects n now s hother, hphase]
  · intro failures more hmore
    exact toNanos_delayAfter_mono settings hmore
  · intro failures hcap hunit hfits
    have hdouble := toNanos_delayAfter_double settings hcap hfits
    have hpos := delayAfter_pos settings hunit failures
    exact ⟨hdouble, by omega⟩
  · intro failures more hmore hend
    exact delayAfter_constant settings hmore hend

/-- Two attempts in a row fail and the third is lost after it was healthy: the delay is two
seconds again, not four or eight. -/
theorem delays_follow_failures_anew :
    let events : List (Nat × SocketEvent Unit) :=
      [(0, .attempt), (1, .dialFailed "refused"), (2001, .attempt), (2002, .dialFailed "refused"),
       (6002, .attempt), (6003, .dialed), (6004, .payload true)]
    let s := ((start {} 0).run events).1
    (start {} 0).endings events = [false, false] ∧
      (s.step 7000 (.serverClosed none)).1.phase = .waiting 9000 ∧
      (delayAfter {} 2).toMillis = 4000 := by
  intro events s
  have hkept : ∀ event ∈ events, event.2 ≠ .cancel := by simp [events]
  have hended : s.ended? 7000 (.serverClosed none) = some true := by decide
  obtain ⟨-, follows, -⟩ := delays_follow_failures {} 0 hkept
  obtain ⟨-, hphase, -⟩ := follows 7000 (.serverClosed none) true nofun hended
  have hdelay : (delayAfter {} (sinceHealthy ((start {} 0).endings events ++ [true]))).toMillis =
      2000 := by decide
  rw [hdelay] at hphase
  exact ⟨by decide, hphase, by decide⟩

end TopicClient.Socket
