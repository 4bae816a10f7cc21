import TopicClient.Transport.Socket

/-!
# What a socket does on an event

A step of a socket is one of a dozen things. All that is said elsewhere about frames,
attempts and delays goes through this list.
-/

namespace TopicClient.Socket
variable {T : Type}

/-- Whether the next attempt begins at the coming moment: the socket has just started, or
the delay after the last attempt is over. -/
def due (now : Nat) (s : Socket T) : Bool :=
  match s.phase with
  | .starting => true
  | .waiting deadline => deadline ≤ now
  | _ => false

/-- Whether the connection of the attempt under way is healthy; `none` between attempts and
at the end. -/
def underWay (s : Socket T) : Option Bool :=
  match s.phase with
  | .dialing _ => some false
  | .connected c => some c.healthy
  | _ => none

theorem live_of_due {now : Nat} {s : Socket T} (h : s.due now = true) : s.phase ≠ .stopped := by
  intro hstopped
  simp [due, hstopped] at h

theorem live_of_underWay {healthy : Bool} {s : Socket T} (h : s.underWay = some healthy) :
    s.phase ≠ .stopped := by
  intro hstopped
  simp [underWay, hstopped] at h

/-- Nothing is done on an event for which the moment is wrong. -/
inductive Idle (now : Nat) (s : Socket T) : SocketEvent T → Prop
  | attempt (early : s.due now = false) : Idle now s .attempt
  | write (fault : Option String)
      (nothing : s.queue = [] ∨ ∀ c, s.phase ≠ .connected c) : Idle now s (.write fault)
  | cancel (stopped : s.phase = .stopped) : Idle now s .cancel
  | other {e : SocketEvent T} (h : e matches
      .dialed | .dialFailed _ | .dialTimedOut | .payload _ | .pingDue _ | .pongOverdue |
      .serverClosed _ | .readFailed _) : Idle now s e

/-- What a socket does on an event. -/
inductive Course (now : Nat) (s : Socket T) : SocketEvent T → Step T → Prop
  | idle {e : SocketEvent T} (idle : Idle now s e) : Course now s e (s, [])
  | queued (f : Frame T) (live : s.phase ≠ .stopped) :
      Course now s (.enqueue f) ({ s with queue := s.queue ++ [f] }, [])
  | refused (f : Frame T) (stopped : s.phase = .stopped) :
      Course now s (.enqueue f) (s, [.settled f.tag (some s.stopFault)])
  | begun (due : s.due now = true) : Course now s .attempt (s.attempt now)
  | opened {d : Nat} (dialing : s.phase = .dialing d) : Course now s .dialed (s.opened now, [])
  | received {c : Connection} (connected : s.phase = .connected c) (isPong : Bool) :
      Course now s (.payload isPong) (s.received now isPong c)
  | written {c : Connection} (connected : s.phase = .connected c) {f : Frame T}
      {rest : List (Frame T)} (queue : s.queue = f :: rest) :
      Course now s (.write none) ({ s with queue := rest }, [.wrote f, .settled f.tag none])
  | failed {c : Connection} (connected : s.phase = .connected c) {f : Frame T}
      {rest : List (Frame T)} (queue : s.queue = f :: rest) (text : String) :
      Course now s (.write (some text))
        ((lost now "sendError" { message := some (TransportError.write text).message } c.healthy
            { s with queue := rest }).1,
          .settled f.tag (some (.write text)) ::
            (lost now "sendError" { message := some (TransportError.write text).message }
              c.healthy { s with queue := rest }).2)
  | pinged {c : Connection} (connected : s.phase = .connected c) :
      Course now s (.pingDue none)
        ({ s with
            phase := .connected { c with token := c.token + 1, nextPing := now + c.interval } },
          [.pinged (c.token + 1)])
  | ended {e : SocketEvent T} {healthy : Bool} (underWay : s.underWay = some healthy)
      (h : e matches .dialFailed _ | .dialTimedOut | .pingDue _ | .pongOverdue |
        .serverClosed _ | .readFailed _) {name : String}
      (named : name ∈ ["wsError", "connectTimeout", "pingError", "pongTimeout", "close"])
      (detail : Detail)
      {goodbye : List (SocketEffect T)} (said : goodbye = [] ∨ goodbye = [.saidGoodbye]) :
      Course now s e
        ((s.lost now name detail healthy).1, goodbye ++ (s.lost now name detail healthy).2)
  | cancelled (live : s.phase ≠ .stopped) {status : ConnectionStatus}
      {goodbye : List (SocketEffect T)} (said : goodbye = [] ∨ goodbye = [.saidGoodbye]) :
      Course now s .cancel
        ((finish .closed { s with status }).1, goodbye ++ (finish .closed { s with status }).2)

/-! ## The beginning of an attempt -/

/-- What the policy says to do before the next attempt. -/
def verdict (s : Socket T) : GiveUpAction :=
  giveUpAction s.settings.giveUp.policy s.settings.giveUp.afterAttempts
    (s.status.connects + 1) s.status.success s.reported

section Attempt
variable {s : Socket T} (now : Nat)

theorem attempt_eq : s.attempt now =
    match s.verdict with
    | .proceed => { s with status := s.status.beginAttempt now }.dial now
    | .report =>
      let status := (s.status.beginAttempt now).note now "giveUp"
      let t := { s with status, reported := true }.dial now
      (t.1, .published status :: t.2)
    | .stop =>
      let status := (s.status.beginAttempt now).note now "giveUp"
      let t := { s with status }.finish .givenUp
      (t.1, .published status :: t.2) :=
  rfl

theorem attempt_of_proceed (h : s.verdict = .proceed) :
    s.attempt now = { s with status := s.status.beginAttempt now }.dial now := by
  rw [attempt_eq, h]

theorem attempt_of_report (h : s.verdict = .report) :
    s.attempt now =
      let status := (s.status.beginAttempt now).note now "giveUp"
      let t := { s with status, reported := true }.dial now
      (t.1, .published status :: t.2) := by
  rw [attempt_eq, h]

theorem attempt_of_stop (h : s.verdict = .stop) :
    s.attempt now =
      let status := (s.status.beginAttempt now).note now "giveUp"
      let t := { s with status }.finish .givenUp
      (t.1, .published status :: t.2) := by
  rw [attempt_eq, h]

end Attempt

/-! ## One event -/

section Events
variable {s : Socket T}

theorem course_enqueue (now : Nat) (f : Frame T) :
    Course now s (.enqueue f) (s.step now (.enqueue f)) := by
  by_cases hstopped : s.phase = .stopped
  · have hrefused : s.refusal? = some s.stopFault := if_pos hstopped
    simp only [step, hrefused]
    exact .refused f hstopped
  · have hqueued : s.refusal? = none := if_neg hstopped
    simp only [step, hqueued]
    exact .queued f hstopped

theorem step_of_due {now : Nat} (h : s.due now = true) : s.step now .attempt = s.attempt now := by
  cases hphase : s.phase with
  | starting => simp only [step, hphase]
  | waiting d =>
    have hover : d ≤ now := by simpa [due, hphase] using h
    simp only [step, hphase, if_pos hover]
  | dialing | connected | stopped => simp [due, hphase] at h

theorem step_of_early {now : Nat} (h : s.due now = false) : s.step now .attempt = (s, []) := by
  cases hphase : s.phase with
  | starting => simp [due, hphase] at h
  | waiting d =>
    have hearly : ¬ d ≤ now := by simpa [due, hphase] using h
    simp only [step, hphase, if_neg hearly]
  | dialing | connected | stopped => simp only [step, hphase]

theorem course_attempt (now : Nat) : Course now s .attempt (s.step now .attempt) := by
  cases hdue : s.due now with
  | true =>
    rw [step_of_due hdue]
    exact .begun hdue
  | false =>
    rw [step_of_early hdue]
    exact .idle (.attempt hdue)

theorem course_write {c : Connection} (hphase : s.phase = .connected c) (now : Nat)
    (fault : Option String) : Course now s (.write fault) (s.write now fault c) := by
  cases hqueue : s.queue with
  | nil =>
    simp only [write, hqueue]
    exact .idle (.write fault (.inl hqueue))
  | cons f rest =>
    cases fault with
    | none =>
      simp only [write, hqueue]
      exact .written hphase hqueue
    | some text =>
      simp only [write, hqueue]
      exact .failed hphase hqueue text

theorem course_ping {c : Connection} (hphase : s.phase = .connected c) (now : Nat)
    (fault : Option String) : Course now s (.pingDue fault) (s.ping now fault c) := by
  cases fault with
  | none => exact .pinged hphase
  | some text => exact .ended (by simp only [underWay, hphase]) rfl (by simp) _ (.inl rfl)

theorem course_cancel (now : Nat) : Course now s .cancel (s.step now .cancel) := by
  cases hphase : s.phase with
  | connected c =>
    simp only [step, hphase]
    exact .cancelled (by rw [hphase]; nofun) (.inr rfl)
  | stopped =>
    simp only [step, hphase]
    exact .idle (.cancel hphase)
  | starting | dialing | waiting =>
    simp only [step, hphase]
    exact .cancelled (by rw [hphase]; nofun) (.inl rfl)

/-- What dials come to matters while a dial is under way. -/
theorem course_dialing {d : Nat} (hphase : s.phase = .dialing d) (now : Nat) {e : SocketEvent T}
    (he : e matches .dialed | .dialFailed _ | .dialTimedOut) : Course now s e (s.step now e) := by
  have hunder : s.underWay = some false := by simp only [underWay, hphase]
  cases e with
  | dialed =>
    simp only [step, hphase]
    exact .opened hphase
  | dialFailed reason =>
    simp only [step, hphase]
    exact .ended hunder rfl (by simp) { message := some reason } (.inl rfl)
  | dialTimedOut =>
    simp only [step, hphase]
    split
    · exact .ended hunder rfl (by simp) {} (.inl rfl)
    · exact .idle (.other rfl)
  | _ => nomatch he

/-- All else matters while a connection is open. -/
theorem course_connected {c : Connection} (hphase : s.phase = .connected c) (now : Nat)
    {e : SocketEvent T}
    (he : e matches .payload _ | .pingDue _ | .pongOverdue | .serverClosed _ | .readFailed _) :
    Course now s e (s.step now e) := by
  have hunder : s.underWay = some c.healthy := by simp only [underWay, hphase]
  cases e with
  | payload isPong =>
    simp only [step, hphase]
    exact .received hphase isPong
  | pingDue fault =>
    simp only [step, hphase]
    split
    · exact course_ping hphase now fault
    · exact .idle (.other rfl)
  | pongOverdue =>
    simp only [step, hphase]
    split
    · exact .ended hunder rfl (by simp) {} (.inr rfl)
    · exact .idle (.other rfl)
  | serverClosed frame =>
    simp only [step, hphase]
    exact .ended hunder rfl (by simp) (.ofClose frame) (.inl rfl)
  | readFailed reason =>
    simp only [step, hphase]
    exact .ended hunder rfl (by simp) { message := some reason } (.inl rfl)
  | _ => nomatch he

end Events

theorem course_step (now : Nat) (e : SocketEvent T) (s : Socket T) :
    Course now s e (s.step now e) := by
  cases e with
  | enqueue f => exact course_enqueue now f
  | attempt => exact course_attempt now
  | cancel => exact course_cancel now
  | write fault =>
    cases hphase : s.phase with
    | connected c =>
      simp only [step, hphase]
      exact course_write hphase now fault
    | _ =>
      simp only [step, hphase]
      exact .idle (.write fault (.inr (by rw [hphase]; nofun)))
  | dialed | dialFailed | dialTimedOut =>
    cases hphase : s.phase with
    | dialing d => exact course_dialing hphase now rfl
    | _ =>
      simp only [step, hphase]
      exact .idle (.other rfl)
  | payload | pingDue | pongOverdue | serverClosed | readFailed =>
    cases hphase : s.phase with
    | connected c => exact course_connected hphase now rfl
    | _ =>
      simp only [step, hphase]
      exact .idle (.other rfl)

end TopicClient.Socket
