import TopicClient.Proofs.SocketStates
import TopicClient.Proofs.SocketSteps

/-!
# Attempts

An attempt lasts from its dial to the end of its connection, or to the end of the dial if
that comes to nothing. Between two attempts the socket waits. A run is seen here as the
list of the attempts that have ended, each with what it came to.
-/

namespace TopicClient.Socket
variable {T : Type}

/-- Whether an event ends the attempt under way, and if it does, whether that had become
healthy. -/
def ended? (now : Nat) (e : SocketEvent T) (s : Socket T) : Option Bool :=
  if s.underWay.isSome && (s.step now e).1.underWay.isNone then some (s.state = .healthy)
  else none

/-- The attempts that end in a run, in order: whether each has become healthy. -/
def endings (s : Socket T) : List (Nat × SocketEvent T) → List Bool
  | [] => []
  | (now, e) :: rest => (s.ended? now e).toList ++ (s.step now e).1.endings rest

theorem endings_append (events more : List (Nat × SocketEvent T)) (s : Socket T) :
    s.endings (events ++ more) = s.endings events ++ (s.run events).1.endings more := by
  induction events generalizing s with
  | nil => rfl
  | cons event events ih =>
    obtain ⟨now, e⟩ := event
    simp only [List.cons_append, endings, ih, List.append_assoc, run]

theorem endings_snoc (events : List (Nat × SocketEvent T)) (now : Nat) (e : SocketEvent T)
    (s : Socket T) :
    s.endings (events ++ [(now, e)]) =
      s.endings events ++ ((s.run events).1.ended? now e).toList := by
  rw [endings_append]
  simp only [endings, List.append_nil]

/-- A connection knows whether its socket is healthy. -/
structure Steady (s : Socket T) : Prop where
  sound : Sound s.health
  connected : ∀ c, s.phase = .connected c → c.healthy = decide (s.state = .healthy)

theorem Steady.underWay {s : Socket T} (h : s.Steady) {healthy : Bool}
    (hunder : s.underWay = some healthy) : healthy = decide (s.state = .healthy) := by
  rw [Socket.underWay] at hunder
  cases hphase : s.phase with
  | dialing d =>
    simp only [hphase, Option.some.injEq] at hunder
    have haway := h.sound.eq_of_away (congrArg Phase.stage hphase)
    have hstate : s.state = .connecting := congrArg Health.state haway
    rw [← hunder, hstate]
    rfl
  | connected c =>
    simp only [hphase, Option.some.injEq] at hunder
    rw [← hunder]
    exact h.connected c hphase
  | starting | waiting | stopped => simp [hphase] at hunder

/-! ## One event -/

/-- The event neither begins nor ends an attempt. -/
structure Kept (s t : Socket T) : Prop where
  settings : t.settings = s.settings
  connects : t.status.connects = s.status.connects
  success : s.status.success = true → t.status.success = true
  failures : t.failures = s.failures
  reported : t.reported = s.reported
  underWay : t.underWay.isSome = s.underWay.isSome
  phase : s.underWay = none → t.phase = s.phase
  healthy : ∀ c, s.phase = .connected c → s.state = .healthy → t.state = .healthy

/-- The event ends an attempt, and the socket waits. -/
structure Ended (now : Nat) (healthy : Bool) (s t : Socket T) : Prop where
  settings : t.settings = s.settings
  connects : t.status.connects = s.status.connects
  success : t.status.success = s.status.success
  failures : t.failures = nextFailures healthy s.failures
  reported : t.reported = s.reported
  phase : t.phase = .waiting (now + s.delay (nextFailures healthy s.failures))

/-- Neither the queue nor the counting of messages is a matter of attempts. -/
theorem kept_of_same (s : Socket T) (messages : UInt64) (queue : List (Frame T)) :
    s.Kept { s with status := { s.status with messages }, queue } :=
  ⟨rfl, rfl, id, rfl, rfl, rfl, fun _ => rfl, fun _ _ h => h⟩

/-- What an event other than a cancellation does to the attempts of a socket. -/
inductive Turn (now : Nat) (s : Socket T) (e : SocketEvent T) (r : Step T) : Prop
  | passes (early : e = .attempt → s.due now = false) (kept : s.Kept r.1)
      (silent : .dial ∉ r.2)
  | begins (attempt : e = .attempt) (due : s.due now = true) (next : r = s.attempt now)
  | ends {healthy : Bool} (underWay : s.underWay = some healthy)
      (other : e ≠ .attempt) (ended : Ended now healthy s r.1) (silent : .dial ∉ r.2)

section Steps
variable {now : Nat} {s : Socket T}

theorem kept_received {c : Connection} (hphase : s.phase = .connected c) (now : Nat)
    (isPong : Bool) :
    s.Kept (s.received now isPong c).1 ∧ SocketEffect.dial ∉ (s.received now isPong c).2 := by
  have hunder : s.underWay = some c.healthy := by simp only [underWay, hphase]
  rw [received, ConnectionStatus.onMessage]
  cases isPong && !s.status.connected with
  | true =>
    refine ⟨⟨rfl, rfl, fun _ => rfl, rfl, rfl, ?_, ?_, fun _ _ _ => rfl⟩, by simp⟩
    · rw [hunder]
      rfl
    · intro hnone
      rw [hunder] at hnone
      cases hnone
  | false => exact ⟨kept_of_same s _ _, by simp⟩

theorem turn_course {e : SocketEvent T} {r : Step T} (h : Course now s e r) (he : e ≠ .cancel) :
    Turn now s e r := by
  cases h with
  | idle hidle =>
    refine .passes ?_ (kept_of_same s _ _) (by simp)
    rintro rfl
    cases hidle with
    | attempt early => exact early
    | other he => cases he
  | queued f live => exact .passes (by simp) (kept_of_same s _ _) (by simp)
  | refused f stopped => exact .passes (by simp) (kept_of_same s _ _) (by simp)
  | begun due => exact .begins rfl due rfl
  | opened dialing =>
    refine .passes (by simp) ⟨rfl, rfl, id, rfl, rfl, ?_, ?_, ?_⟩ (by simp)
    · simp [underWay, dialing, Socket.opened]
    · intro hnone
      simp [underWay, dialing] at hnone
    · intro c connected
      cases dialing.symm.trans connected
  | received connected isPong =>
    obtain ⟨hkept, hsilent⟩ := kept_received connected now isPong
    exact .passes (by simp) hkept hsilent
  | written connected queue =>
    exact .passes (by simp) (kept_of_same s _ _) (by simp)
  | @failed c connected f rest queue text =>
    have hunder : s.underWay = some c.healthy := by simp only [underWay, connected]
    exact .ends hunder (by simp) ⟨rfl, rfl, rfl, rfl, rfl, rfl⟩ (by simp [lost, retreat])
  | @pinged c connected =>
    refine .passes (by simp) ⟨rfl, rfl, id, rfl, rfl, ?_, ?_, fun _ _ h => h⟩ (by simp)
    · simp [underWay, connected]
    · intro hnone
      simp [underWay, connected] at hnone
  | ended underWay h named detail said =>
    refine .ends underWay (by rintro rfl; cases h) ⟨rfl, rfl, rfl, rfl, rfl, rfl⟩ ?_
    rcases said with rfl | rfl
    · simp [lost, retreat]
    · simp [lost, retreat]
  | cancelled => exact absurd rfl he

theorem turn_step (s : Socket T) (now : Nat) {e : SocketEvent T} (he : e ≠ .cancel) :
    Turn now s e (s.step now e) :=
  turn_course (course_step now e s) he

theorem connected_course {e : SocketEvent T} {r : Step T} (h : Course now s e r) (hs : s.Steady)
    (c : Connection) (hphase : r.1.phase = .connected c) :
    c.healthy = decide (r.1.state = .healthy) := by
  cases h with
  | idle | queued | refused | written => exact hs.connected c hphase
  | begun due =>
    rw [attempt] at hphase
    split at hphase <;> cases hphase
  | opened dialing =>
    cases hphase
    rfl
  | @received d connected isPong =>
    rw [received, ConnectionStatus.onMessage] at hphase ⊢
    cases hfirst : isPong && !s.status.connected with
    | true =>
      simp only [hfirst] at hphase ⊢
      cases hphase
      rfl
    | false =>
      simp only [hfirst] at hphase ⊢
      exact hs.connected c hphase
  | @pinged d connected =>
    cases hphase
    exact hs.connected d connected
  | failed | ended | cancelled => cases hphase

theorem Steady.step (hs : s.Steady) (now : Nat) (e : SocketEvent T) : (s.step now e).1.Steady where
  sound := (move_step s now e).sound hs.sound
  connected := connected_course (course_step now e s) hs

theorem Steady.run (hs : s.Steady) (events : List (Nat × SocketEvent T)) :
    (s.run events).1.Steady := by
  induction events generalizing s with
  | nil => exact hs
  | cons event events ih => exact ih (hs.step event.1 event.2)

theorem steady_start (settings : SocketSettings) (since : Nat) :
    (start (T := T) settings since).Steady :=
  ⟨sound_start settings since, fun c hphase => by cases hphase⟩

theorem underWay_of_due (h : s.due now = true) : s.underWay = none := by
  rw [due] at h
  rw [underWay]
  cases hphase : s.phase with
  | starting | waiting => rfl
  | dialing | connected | stopped => simp [hphase] at h

theorem ended?_of_kept {e : SocketEvent T} (h : s.Kept (s.step now e).1) :
    s.ended? now e = none := by
  rw [ended?, ← h.underWay]
  cases (s.step now e).1.underWay with
  | none => rfl
  | some healthy => rfl

theorem ended?_of_due (h : s.due now = true) (e : SocketEvent T) : s.ended? now e = none := by
  rw [ended?, underWay_of_due h]
  rfl

theorem ended?_of_ended {e : SocketEvent T} (hs : s.Steady) {healthy : Bool}
    (hunder : s.underWay = some healthy) (h : Ended now healthy s (s.step now e).1) :
    s.ended? now e = some healthy := by
  have hafter : (s.step now e).1.underWay = none := by simp only [underWay, h.phase]
  rw [ended?, hunder, hafter, hs.underWay hunder]
  rfl

/-- What the end of an attempt brings, and how the attempt went. -/
theorem Steady.ended (hs : s.Steady) {e : SocketEvent T} (he : e ≠ .cancel) {healthy : Bool}
    (hended : s.ended? now e = some healthy) :
    s.underWay = some healthy ∧ e ≠ .attempt ∧ Ended now healthy s (s.step now e).1 := by
  cases turn_step s now he with
  | passes early kept => rw [ended?_of_kept kept] at hended; cases hended
  | begins attempt due => rw [ended?_of_due due] at hended; cases hended
  | ends hunder other ended =>
    rw [ended?_of_ended hs hunder ended] at hended
    cases hended
    exact ⟨hunder, other, ended⟩

theorem Steady.connected_of_healthy (hs : s.Steady) (h : s.state = .healthy) :
    ∃ c, s.phase = .connected c := by
  have hstage : s.health.stage = .on := congrArg Health.stage (hs.sound.eq_of_healthy h)
  cases hphase : s.phase with
  | connected c => exact ⟨c, rfl⟩
  | starting | dialing | waiting | stopped =>
    simp only [health, hphase, Phase.stage] at hstage
    cases hstage

theorem Steady.success_of_healthy (hs : s.Steady) (h : s.state = .healthy) :
    s.status.success = true :=
  congrArg Health.success (hs.sound.eq_of_healthy h)

/-- A connection that has become healthy is so until the attempt ends. -/
theorem Steady.healthy_until_ended (hs : s.Steady) (h : s.state = .healthy) (now : Nat)
    {e : SocketEvent T} (he : e ≠ .cancel) :
    (s.step now e).1.state = .healthy ∨ s.ended? now e = some true := by
  obtain ⟨c, hphase⟩ := hs.connected_of_healthy h
  cases turn_step s now he with
  | passes early kept => exact .inl (kept.healthy c hphase h)
  | begins attempt hdue => simp [due, hphase] at hdue
  | @ends healthy hunder other ended =>
    have hhealthy : healthy = true := by
      rw [hs.underWay hunder, h]
      rfl
    right
    rw [ended?_of_ended hs hunder ended, hhealthy]

end Steps

end TopicClient.Socket
