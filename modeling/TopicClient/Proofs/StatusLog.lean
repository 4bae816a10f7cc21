import Mathlib.Data.List.DropRight
import TopicClient.Proofs.SocketStates
import TopicClient.Proofs.SocketSteps

/-!
# The log of a socket

The log of a status has room for so many events. What a socket records on an event does
not depend on its log; so the log is the end of all that was ever recorded.
-/

namespace TopicClient

theorem rtake_rtake_append {α : Type} (first last : List α) (n : Nat) :
    (first.rtake n ++ last).rtake n = (first ++ last).rtake n := by
  simp only [List.rtake, List.length_append, List.length_drop, List.drop_append, List.drop_drop]
  congr 2 <;> omega

theorem rtake_of_length_le {α : Type} {l : List α} {n : Nat} (h : l.length ≤ n) :
    l.rtake n = l := by
  have hall : l.length - n = 0 := by omega
  rw [List.rtake, hall, List.drop_zero]

theorem length_rtake_le {α : Type} (l : List α) (n : Nat) : (l.rtake n).length ≤ n := by
  simp only [List.rtake, List.length_drop]
  omega

namespace ConnectionStatus

/-- What is recorded under a name. -/
def told (now : Nat) (name : String) (detail : Detail) (s : ConnectionStatus) : StatusEvent :=
  ⟨name, UInt64.ofNat (now - s.startedAt), UInt64.ofNat (now - s.connectStartedAt), detail⟩

theorem record_events {s : ConnectionStatus} (h : s.events.length ≤ eventLimit) (now : Nat)
    (name : String) (detail : Detail) :
    (s.record now name detail).events =
      (s.events ++ [s.told now name detail]).rtake eventLimit := by
  have hroom : eventLimit = 255 + 1 := rfl
  rw [hroom, List.rtake_concat_succ]
  by_cases hfull : s.events.length = eventLimit
  · have hlen : s.events.length - 255 = 1 := by omega
    simp only [record, if_pos hfull, List.rtake, hlen]
    rfl
  · have hlen : s.events.length - 255 = 0 := by omega
    simp only [record, if_neg hfull, List.rtake, hlen, List.drop_zero]
    rfl

/-- A change of the log that records the same few events whatever the log was. -/
def Records (change : List StatusEvent → List StatusEvent) : Prop :=
  ∃ more, more.length ≤ eventLimit ∧ ∀ log, log.length ≤ eventLimit →
    change log = (log ++ more).rtake eventLimit

theorem records_none : Records fun log => log :=
  ⟨[], by simp, fun log h => by rw [List.append_nil, rtake_of_length_le h]⟩

theorem records_one (s : ConnectionStatus) (now : Nat) (name : String) (detail : Detail) :
    Records fun log => ({ s with events := log }.record now name detail).events := by
  refine ⟨[s.told now name detail], ?_, ?_⟩
  · exact Nat.one_le_of_lt (by decide : 0 < eventLimit)
  · intro log h
    exact record_events (s := { s with events := log }) h now name detail

theorem records_two (s : ConnectionStatus) (now : Nat) (name name' : String)
    (detail detail' : Detail) :
    Records fun log =>
      (({ s with events := log }.record now name detail).record now name' detail').events := by
  refine ⟨[s.told now name detail, s.told now name' detail'], ?_, ?_⟩
  · exact (by decide : 2 ≤ eventLimit)
  · intro log h
    have hfirst := record_events (s := { s with events := log }) h now name detail
    have hroom : ({ s with events := log }.record now name detail).events.length ≤ eventLimit := by
      rw [hfirst]
      exact length_rtake_le _ _
    have hsecond := record_events hroom now name' detail'
    rw [hfirst, rtake_rtake_append, List.append_assoc] at hsecond
    exact hsecond

end ConnectionStatus

namespace Socket
open ConnectionStatus
variable {T : Type}

/-- The socket with another log. -/
def withLog (log : List StatusEvent) (s : Socket T) : Socket T :=
  { s with status := { s.status with events := log } }

/-- What is recorded on an event: what is in the log after it if nothing was in it before. -/
def recorded (now : Nat) (e : SocketEvent T) (s : Socket T) : List StatusEvent :=
  ((s.withLog []).step now e).1.status.events

/-- All that is recorded in a run, in order. -/
def history (s : Socket T) : List (Nat × SocketEvent T) → List StatusEvent
  | [] => []
  | (now, e) :: rest => s.recorded now e ++ (s.step now e).1.history rest

theorem history_append (events more : List (Nat × SocketEvent T)) (s : Socket T) :
    s.history (events ++ more) = s.history events ++ (s.run events).1.history more := by
  induction events generalizing s with
  | nil => rfl
  | cons event events ih =>
    obtain ⟨now, e⟩ := event
    simp only [List.cons_append, history, ih, List.append_assoc, run]

theorem history_snoc (events : List (Nat × SocketEvent T)) (now : Nat) (e : SocketEvent T)
    (s : Socket T) :
    s.history (events ++ [(now, e)]) = s.history events ++ (s.run events).1.recorded now e := by
  rw [history_append]
  simp only [history, List.append_nil]

theorem records_attempt (now : Nat) (s : Socket T) :
    Records fun log => ((s.withLog log).attempt now).1.status.events := by
  have hverdict (log : List StatusEvent) : (s.withLog log).verdict = s.verdict := rfl
  let begun : ConnectionStatus :=
    { s.status with
      connects := s.status.connects + 1
      opened := false
      connected := false
      connectStartedAt := now }
  simp only [attempt_eq, hverdict]
  cases s.verdict with
  | proceed => exact records_one begun now "connect" {}
  | report | stop => exact records_two begun now "connect" "giveUp" {} {}

theorem records_dialing {s : Socket T} {deadline : Nat} (hphase : s.phase = .dialing deadline)
    (now : Nat) {e : SocketEvent T} (he : e matches .dialed | .dialFailed _ | .dialTimedOut) :
    Records fun log => ((s.withLog log).step now e).1.status.events := by
  have hsame (log : List StatusEvent) : (s.withLog log).phase = .dialing deadline := hphase
  cases e with
  | dialed =>
    simp only [step, hsame]
    exact records_one { s.status with opened := true } now "open" {}
  | dialFailed reason =>
    simp only [step, hsame]
    exact records_one s.status now "wsError" { message := some reason }
  | dialTimedOut =>
    simp only [step, hsame]
    split
    · exact records_one s.status now "connectTimeout" {}
    · exact records_none
  | _ => cases he

theorem records_write (now : Nat) (fault : Option String) (c : Connection) (s : Socket T) :
    Records fun log => ((s.withLog log).write now fault c).1.status.events := by
  have hsame (log : List StatusEvent) : (s.withLog log).queue = s.queue := rfl
  simp only [write, hsame]
  cases s.queue with
  | nil => exact records_none
  | cons f rest =>
    cases fault with
    | none => exact records_none
    | some text =>
      exact records_one s.status now "sendError"
        { message := some (TransportError.write text).message }

theorem records_received (now : Nat) (isPong : Bool) (c : Connection) (s : Socket T) :
    Records fun log => ((s.withLog log).received now isPong c).1.status.events := by
  cases hfirst : isPong && !s.status.connected with
  | true =>
    simp only [received, onMessage, withLog, hfirst]
    exact records_one _ now "pong" {}
  | false =>
    simp only [received, onMessage, withLog, hfirst]
    exact records_none

theorem records_connected {s : Socket T} {c : Connection} (hphase : s.phase = .connected c)
    (now : Nat) {e : SocketEvent T}
    (he : e matches .payload _ | .write _ | .pingDue _ | .pongOverdue | .serverClosed _ |
      .readFailed _) :
    Records fun log => ((s.withLog log).step now e).1.status.events := by
  have hsame (log : List StatusEvent) : (s.withLog log).phase = .connected c := hphase
  cases e with
  | payload isPong =>
    simp only [step, hsame]
    exact records_received now isPong c s
  | write fault =>
    simp only [step, hsame]
    exact records_write now fault c s
  | pingDue fault =>
    simp only [step, hsame]
    split
    · cases fault with
      | none => exact records_none
      | some text =>
        exact records_one s.status now "pingError"
          { message := some (TransportError.ping text).message }
    · exact records_none
  | pongOverdue =>
    simp only [step, hsame]
    split
    · exact records_one s.status now "pongTimeout" {}
    · exact records_none
  | serverClosed frame =>
    simp only [step, hsame]
    exact records_one s.status now "close" (.ofClose frame)
  | readFailed reason =>
    simp only [step, hsame]
    exact records_one s.status now "wsError" { message := some reason }
  | _ => cases he

/-- Every event records the same whatever the log is. -/
theorem records_step (now : Nat) (e : SocketEvent T) (s : Socket T) :
    Records fun log => ((s.withLog log).step now e).1.status.events := by
  have hsame (log : List StatusEvent) : (s.withLog log).phase = s.phase := rfl
  cases e with
  | attempt =>
    cases hdue : s.due now with
    | true =>
      have hstep (log : List StatusEvent) : (s.withLog log).step now .attempt = _ :=
        step_of_due hdue
      simp only [hstep]
      exact records_attempt now s
    | false =>
      have hstep (log : List StatusEvent) : (s.withLog log).step now .attempt = _ :=
        step_of_early hdue
      simp only [hstep]
      exact records_none
  | enqueue f =>
    have hrefusal (log : List StatusEvent) :
        (s.withLog log).refusal? = s.refusal? := rfl
    simp only [step, hrefusal]
    cases s.refusal? <;> exact records_none
  | dialed | dialFailed | dialTimedOut =>
    cases hphase : s.phase with
    | dialing deadline => exact records_dialing hphase now rfl
    | _ =>
      simp only [step, hsame, hphase]
      exact records_none
  | payload | write | pingDue | pongOverdue | serverClosed | readFailed =>
    cases hphase : s.phase with
    | connected c => exact records_connected hphase now rfl
    | _ =>
      simp only [step, hsame, hphase]
      exact records_none
  | cancel =>
    cases hphase : s.phase <;> simp only [step, hsame, hphase] <;> exact records_none

/-- The log after an event is the end of the log before it and what is recorded. -/
theorem log_step {s : Socket T} (h : s.status.events.length ≤ eventLimit) (now : Nat)
    (e : SocketEvent T) :
    (s.step now e).1.status.events =
      (s.status.events ++ s.recorded now e).rtake eventLimit := by
  obtain ⟨more, hfew, hmore⟩ := records_step now e s
  have hrecorded : s.recorded now e = more := by
    have hempty := hmore [] (Nat.zero_le _)
    rw [List.nil_append, rtake_of_length_le hfew] at hempty
    exact hempty
  rw [hrecorded]
  exact hmore s.status.events h

theorem log_run {s : Socket T} (h : s.status.events.length ≤ eventLimit)
    (events : List (Nat × SocketEvent T)) :
    (s.run events).1.status.events =
      (s.status.events ++ s.history events).rtake eventLimit := by
  induction events generalizing s with
  | nil =>
    simp only [run, history, List.append_nil]
    exact (rtake_of_length_le h).symm
  | cons event events ih =>
    obtain ⟨now, e⟩ := event
    have hstep := log_step h now e
    have hroom : (s.step now e).1.status.events.length ≤ eventLimit := by
      rw [hstep]
      exact length_rtake_le _ _
    have hrest := ih hroom
    rw [hstep, rtake_rtake_append, List.append_assoc] at hrest
    exact hrest

end Socket

end TopicClient
