import Mathlib.Data.List.Induction
import TopicClient.Transport.Supervisor

/-!
# Following the socket

A supervisor that has a socket is on it exactly if the last status that it was told is
that of a healthy connection, and polling is stopped exactly then. Closing stops polling
for good only if no healthy status comes after it.
-/

namespace TopicClient.Supervisor

/-- A status makes the socket current or not, and asks for the topics to be announced
again if that is a change. -/
theorem onStatus_eq (status : ConnectionStatus) (s : Supervisor) :
    (s.onStatus status).supervisor.onSocket = (status.connected && s.hasSocket) ∧
      (((s.onStatus status).resubscribe = true ∧ (s.onStatus status).supervisor =
        { s with onSocket := !s.onSocket, polling := { s.polling with stopped := !s.onSocket } }) ∨
       ((s.onStatus status).resubscribe = false ∧ (s.onStatus status).supervisor = s)) := by
  obtain ⟨hasSocket, onSocket, polling⟩ := s
  rw [onStatus]
  cases status.connected <;> cases hasSocket <;> cases onSocket <;>
    simp [Polling.stop, Polling.resume]

/-- The supervisor after it has been told these statuses, in order. -/
def after (statuses : List ConnectionStatus) (s : Supervisor) : Supervisor :=
  statuses.foldl (fun s status => (s.onStatus status).supervisor) s

theorem after_append (statuses more : List ConnectionStatus) (s : Supervisor) :
    s.after (statuses ++ more) = (s.after statuses).after more := by
  simp [after]

theorem hasSocket_onStatus (status : ConnectionStatus) (s : Supervisor) :
    (s.onStatus status).supervisor.hasSocket = s.hasSocket := by
  rcases (s.onStatus_eq status).2 with ⟨-, heq⟩ | ⟨-, heq⟩
  · rw [heq]
  · rw [heq]

theorem hasSocket_after (statuses : List ConnectionStatus) (s : Supervisor) :
    (s.after statuses).hasSocket = s.hasSocket := by
  induction statuses generalizing s with
  | nil => rfl
  | cons status statuses ih => exact (ih _).trans (hasSocket_onStatus status s)

theorem onSocket_after {s : Supervisor} (hsocket : s.hasSocket = true)
    (statuses : List ConnectionStatus) :
    (s.after statuses).onSocket =
      (statuses.getLast?.map ConnectionStatus.connected).getD s.onSocket := by
  induction statuses using List.reverseRecOn with
  | nil => rfl
  | append_singleton statuses status ih =>
    have hlast := ((s.after statuses).onStatus_eq status).1
    rw [hasSocket_after, hsocket, Bool.and_true] at hlast
    rw [after_append, List.getLast?_append]
    exact hlast

theorem current_eq_socket_iff (s : Supervisor) : s.current = .socket ↔ s.onSocket = true := by
  rw [current]
  cases s.onSocket <;> simp

/-! ## What the statuses come to -/

/-- The outcomes of these statuses, told one after the other. -/
def outcomes : List ConnectionStatus → Supervisor → List StatusOutcome
  | [], _ => []
  | status :: statuses, s =>
    s.onStatus status :: outcomes statuses (s.onStatus status).supervisor

theorem mem_outcomes {o : StatusOutcome} {statuses : List ConnectionStatus} {s : Supervisor}
    (h : o ∈ s.outcomes statuses) :
    ∃ earlier status later, statuses = earlier ++ status :: later ∧
      o = (s.after earlier).onStatus status := by
  induction statuses generalizing s with
  | nil => cases h
  | cons status statuses ih =>
    rcases List.mem_cons.mp h with rfl | h
    · exact ⟨[], status, statuses, rfl, rfl⟩
    · obtain ⟨earlier, status', later, rfl, rfl⟩ := ih h
      exact ⟨status :: earlier, status', later, rfl, rfl⟩

theorem onStatus_mem_outcomes (earlier : List ConnectionStatus) (status : ConnectionStatus)
    (later : List ConnectionStatus) (s : Supervisor) :
    (s.after earlier).onStatus status ∈ s.outcomes (earlier ++ status :: later) := by
  induction earlier generalizing s with
  | nil => exact List.mem_cons_self
  | cons first earlier ih => exact List.mem_cons_of_mem _ (ih _)

/-- Every outcome takes up the transport that the one before it left current. -/
theorem currents_outcomes (statuses : List ConnectionStatus) (s : Supervisor) :
    s.current :: (s.outcomes statuses).map (fun o => o.change.current) =
      (s.outcomes statuses).map (fun o => o.change.previous) ++ [(s.after statuses).current] := by
  induction statuses generalizing s with
  | nil => rfl
  | cons status statuses ih => exact congrArg (s.current :: ·) (ih _)

theorem statuses_outcomes (statuses : List ConnectionStatus) (s : Supervisor) :
    (s.outcomes statuses).map (fun o => o.change.status) = statuses := by
  induction statuses generalizing s with
  | nil => rfl
  | cons status statuses ih => exact congrArg (status :: ·) (ih _)

theorem resubscribe_iff (status : ConnectionStatus) (s : Supervisor) :
    (s.onStatus status).resubscribe = true ↔
      s.current ≠ (s.onStatus status).supervisor.current := by
  rcases (s.onStatus_eq status).2 with ⟨hswitched, hs⟩ | ⟨hkept, hs⟩
  · rw [hswitched, hs, current, current]
    cases s.onSocket <;> simp
  · rw [hkept, hs]
    simp

/-- Polling is stopped while the socket is current, and only a supervisor that has a
socket is on it. -/
structure Settled (s : Supervisor) : Prop where
  stopped : s.polling.stopped = s.onSocket
  owned : s.onSocket = true → s.hasSocket = true

theorem Settled.onStatus {s : Supervisor} (h : s.Settled) (status : ConnectionStatus) :
    (s.onStatus status).supervisor.Settled := by
  obtain ⟨hsocket, ⟨-, hs⟩ | ⟨-, hs⟩⟩ := s.onStatus_eq status
  · refine ⟨by rw [hs], fun hon => ?_⟩
    rw [hon] at hsocket
    rw [hasSocket_onStatus]
    exact (Bool.and_eq_true_iff.mp hsocket.symm).2
  · rw [hs]
    exact h

theorem Settled.after {s : Supervisor} (h : s.Settled) (statuses : List ConnectionStatus) :
    (s.after statuses).Settled := by
  induction statuses generalizing s with
  | nil => exact h
  | cons status statuses ih => exact ih (h.onStatus status)

theorem Settled.active_eq {s : Supervisor} (h : s.Settled) : s.active = s.current := by
  rw [active, current]
  cases hon : s.onSocket with
  | false => rfl
  | true => rw [h.owned hon, Bool.and_self]

theorem Settled.stopped_iff {s : Supervisor} (h : s.Settled) :
    s.polling.stopped = true ↔ s.current = .socket := by
  rw [h.stopped, current_eq_socket_iff]

theorem current_eq_polling_iff (s : Supervisor) : s.current = .polling ↔ s.onSocket = false := by
  rw [current]
  cases s.onSocket <;> simp

/-- A supervisor that starts with polling and has been told these statuses. With a socket,
the last status decides which transport is current; without one it is always polling.
Polling is stopped while the socket is current, sends go to the current transport, and the
outcomes ask for the topics to be announced again exactly where the current transport
changes. -/
theorem transport_follows_socket (hasSocket : Bool) (inFlight : List String)
    (statuses : List ConnectionStatus) :
    let s : Supervisor := { hasSocket, polling := { inFlight } }
    let t := s.after statuses
    let outcomes := s.outcomes statuses
    (hasSocket = true → (t.current = .socket ↔
        ∃ status, statuses.getLast? = some status ∧ status.connected = true)) ∧
      (hasSocket = false → t.current = .polling ∧ t.polling.stopped = false) ∧
      (t.polling.stopped = true ↔ t.current = .socket) ∧
      t.active = t.current ∧
      outcomes.map (fun o => o.change.status) = statuses ∧
      TransportKind.polling :: outcomes.map (fun o => o.change.current) =
        outcomes.map (fun o => o.change.previous) ++ [t.current] ∧
      ∀ o ∈ outcomes, (o.resubscribe = true ↔ o.change.previous ≠ o.change.current) ∧
        o.change.current = o.supervisor.current := by
  intro s t outcomes
  have settled : t.Settled := Settled.after (s := s) ⟨rfl, nofun⟩ statuses
  have owner : t.hasSocket = hasSocket := hasSocket_after statuses s
  refine ⟨?_, ?_, settled.stopped_iff, settled.active_eq, statuses_outcomes statuses s,
    currents_outcomes statuses s, ?_⟩
  · intro hsocket
    rw [current_eq_socket_iff, onSocket_after (s := s) hsocket]
    cases statuses.getLast? with
    | none => simp [s]
    | some status => simp
  · intro hnone
    have hoff : t.onSocket = false := by
      by_contra hon
      have howned := settled.owned (by simpa using hon)
      rw [owner, hnone] at howned
      cases howned
    exact ⟨(current_eq_polling_iff t).mpr hoff, settled.stopped.trans hoff⟩
  · intro o ho
    obtain ⟨earlier, status, later, -, rfl⟩ := mem_outcomes ho
    exact ⟨resubscribe_iff status _, rfl⟩

/-! ## Closing -/

/-- Off the socket, nothing comes of a status unless it is that of a healthy socket. -/
theorem onStatus_idle {s : Supervisor} (hoff : s.onSocket = false) {status : ConnectionStatus}
    (hquiet : s.hasSocket = true → status.connected = false) :
    (s.onStatus status).resubscribe = false ∧ (s.onStatus status).supervisor = s := by
  obtain ⟨hsocket, ⟨-, hs⟩ | hkept⟩ := s.onStatus_eq status
  · rw [hs, hoff] at hsocket
    obtain ⟨hconnected, howned⟩ := Bool.and_eq_true_iff.mp hsocket.symm
    rw [hquiet howned] at hconnected
    cases hconnected
  · exact hkept

theorem after_idle {s : Supervisor} (hoff : s.onSocket = false)
    {statuses : List ConnectionStatus}
    (hquiet : s.hasSocket = true → ∀ status ∈ statuses, status.connected = false) :
    s.after statuses = s := by
  induction statuses with
  | nil => rfl
  | cons status statuses ih =>
    have hfirst := onStatus_idle hoff fun h => hquiet h status List.mem_cons_self
    have hrest := ih fun h status hmem => hquiet h status (List.mem_cons_of_mem _ hmem)
    exact (congrArg (fun t => t.after statuses) hfirst.2).trans hrest

/-- Closing leaves polling current and stopped. It stays so, and nothing is to be announced
again, exactly if no healthy status of a socket comes after it. -/
theorem close_lasts_iff (s : Supervisor) (earlier later : List ConnectionStatus) :
    let t := (s.after earlier).close
    t.current = .polling ∧ t.polling.stopped = true ∧
      ((∀ o ∈ t.outcomes later, o.resubscribe = false ∧ o.supervisor.current = .polling ∧
          o.supervisor.polling.stopped = true) ↔
        (s.hasSocket = true → ∀ status ∈ later, status.connected = false)) := by
  intro t
  have owner : t.hasSocket = s.hasSocket := hasSocket_after earlier s
  refine ⟨rfl, rfl, ?_⟩
  constructor
  · intro hlasts hsocket status hmem
    obtain ⟨before, after, rfl⟩ := List.append_of_mem hmem
    have hpolling := (hlasts _ (onStatus_mem_outcomes before status after t)).2.1
    have hdecided := ((t.after before).onStatus_eq status).1
    rw [(current_eq_polling_iff _).mp hpolling, hasSocket_after, owner, hsocket,
      Bool.and_true] at hdecided
    exact hdecided.symm
  · intro hquiet o ho
    obtain ⟨before, status, after, rfl, rfl⟩ := mem_outcomes ho
    have hbefore : t.after before = t := after_idle rfl fun h status hmem =>
      hquiet (owner ▸ h) status (List.mem_append_left _ hmem)
    rw [hbefore]
    obtain ⟨hno, hsame⟩ := onStatus_idle (s := t) rfl fun h =>
      hquiet (owner ▸ h) status (List.mem_append_right _ List.mem_cons_self)
    rw [hno, hsame]
    exact ⟨rfl, rfl, rfl⟩

/-- A healthy status after closing makes the closed socket current, and the next loss of
the connection makes polling go on. -/
theorem close_undone :
    let up := (((ConnectionStatus.start 0).beginAttempt 0).markOpened 0 |>.onMessage 0 true).2
    let closed := Supervisor.close { hasSocket := true }
    closed.current = .polling ∧ closed.polling.stopped = true ∧
      (closed.outcomes [up, up.markDisconnected]).map (fun o =>
          (o.resubscribe, o.supervisor.current, o.supervisor.polling.stopped)) =
        [(true, .socket, true), (true, .polling, false)] := by
  decide +kernel

end TopicClient.Supervisor
