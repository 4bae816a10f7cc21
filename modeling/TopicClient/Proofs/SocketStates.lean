import Mathlib.Data.Bool.Basic
import Mathlib.Data.List.Chain
import TopicClient.Proofs.SocketReports
import TopicClient.Proofs.Supervision

/-!
# The health of a socket

A socket says in three places whether its connection is healthy: in its state, in its
status, and in the statuses that it publishes. After every step the three agree. Whoever
follows the published statuses is on the socket exactly while it is healthy.
-/

namespace TopicClient.Socket
variable {T : Type}

/-- Between connections, on one, or at the end. -/
inductive Stage where
  | away
  | on
  | ended
deriving DecidableEq

def Phase.stage : Phase → Stage
  | .starting | .dialing _ | .waiting _ => .away
  | .connected _ => .on
  | .stopped => .ended

/-- All that a socket says about its health. -/
structure Health where
  stage : Stage
  state : SocketState
  opened : Bool
  connected : Bool
  success : Bool

def health (s : Socket T) : Health :=
  ⟨Phase.stage s.phase, s.state, s.status.opened, s.status.connected, s.status.success⟩

theorem state_of_health {s : Socket T} {a : Health} (h : s.health = a) : s.state = a.state :=
  congrArg Health.state h

theorem success_of_health {s : Socket T} {a : Health} (h : s.health = a) :
    s.status.success = a.success :=
  congrArg Health.success h

/-- What an event can do to a socket of health `a`: the socket that it becomes, and the
statuses that are published. A status is published as it is after the step. -/
inductive Move (e : SocketEvent T) (a : Health) (t : Socket T) : List ConnectionStatus → Prop
  | quiet (health : t.health = a) : Move e a t []
  | dialing (away : a.stage = .away) (health : t.health = ⟨.away, a.state, false, false, a.success⟩)
      {told : List ConnectionStatus} (own : told = [] ∨ told = [t.status]) : Move e a t told
  | givenUp (away : a.stage = .away) (health : t.health = ⟨.ended, .givenUp, false, false, a.success⟩) :
      Move e a t [t.status]
  | opened (away : a.stage = .away)
      (health : t.health = ⟨.on, .openUnhealthy, true, a.connected, a.success⟩) : Move e a t []
  | answered (on : a.stage = .on) (silent : a.connected = false)
      (health : t.health = ⟨.on, .healthy, a.opened, true, true⟩) : Move e a t [t.status]
  | retreated (live : a.stage ≠ .ended)
      (health : t.health = ⟨.away, .connecting, false, false, a.success⟩) : Move e a t [t.status]
  | hungUp (cancel : e = .cancel) (on : a.stage = .on)
      (health : t.health = ⟨.ended, .closed, false, false, a.success⟩) : Move e a t []
  | cancelled (cancel : e = .cancel) (away : a.stage = .away)
      (health : t.health = ⟨.ended, .closed, a.opened, a.connected, a.success⟩) : Move e a t []

section Steps
variable {e : SocketEvent T} {s : Socket T}

theorem move_retreat (live : s.health.stage ≠ .ended) (t : Socket T)
    (hsuccess : t.status.success = s.status.success) (now : Nat) (healthy : Bool) :
    Move e s.health (t.retreat now healthy).1 (told (t.retreat now healthy).2) := by
  have hkept : t.status.success = s.health.success := hsuccess
  refine .retreated live ?_
  rw [← hkept]
  rfl

theorem move_attempt (away : s.health.stage = .away) (now : Nat) :
    Move e s.health (s.attempt now).1 (told (s.attempt now).2) := by
  simp only [attempt]
  split
  · exact .dialing away rfl (.inl rfl)
  · exact .dialing away rfl (.inr rfl)
  · rw [told_cons, told_finish]
    exact .givenUp away rfl

theorem move_received (on : s.health.stage = .on) (now : Nat) (isPong : Bool) (c : Connection) :
    Move e s.health (s.received now isPong c).1 (told (s.received now isPong c).2) := by
  rw [received, ConnectionStatus.onMessage]
  cases hpong : isPong && !s.status.connected with
  | true =>
    have hsilent : s.status.connected = false := by
      simpa using (Bool.and_eq_true_iff.mp hpong).2
    exact .answered on hsilent rfl
  | false => exact .quiet rfl

theorem move_write (on : s.health.stage = .on) (now : Nat) (fault : Option String)
    (c : Connection) :
    Move e s.health (s.write now fault c).1 (told (s.write now fault c).2) := by
  have live : s.health.stage ≠ .ended := by rw [on]; nofun
  simp only [write]
  split
  · exact .quiet rfl
  · exact .quiet rfl
  · refine move_retreat live _ ?_ now c.healthy
    rfl

theorem move_ping (on : s.health.stage = .on) (now : Nat) (fault : Option String)
    {c : Connection} (hphase : s.phase = .connected c) :
    Move e s.health (s.ping now fault c).1 (told (s.ping now fault c).2) := by
  have live : s.health.stage ≠ .ended := by rw [on]; nofun
  simp only [ping]
  cases fault with
  | none =>
    refine .quiet ?_
    simp only [health, hphase]
    rfl
  | some text =>
    refine move_retreat live _ ?_ now c.healthy
    rfl

theorem move_lost (live : s.health.stage ≠ .ended) (now : Nat) (name : String) (detail : Detail)
    (healthy : Bool) :
    Move e s.health (s.lost now name detail healthy).1
      (told (s.lost now name detail healthy).2) := by
  refine move_retreat live _ ?_ now healthy
  rfl

theorem move_cancel (away : s.health.stage = .away) :
    Move .cancel s.health (s.finish .closed).1 (told (s.finish .closed).2) := by
  rw [told_finish]
  exact .cancelled rfl away rfl

theorem move_hangUp (on : s.health.stage = .on) :
    let t := { s with status := s.status.markDisconnected }.finish .closed
    Move .cancel s.health t.1 (told (.saidGoodbye :: t.2)) := by
  intro t
  rw [told_cons, told_finish]
  exact .hungUp rfl on rfl

/-- Everything that a step can do to the health of a socket. -/
theorem move_step (s : Socket T) (now : Nat) (e : SocketEvent T) :
    Move e s.health (s.step now e).1 (told (s.step now e).2) := by
  have hidle : Move e s.health s [] := .quiet rfl
  have hdialing {d : Nat} (h : s.phase = .dialing d) : s.health.stage ≠ .ended := by
    simp [health, h, Phase.stage]
  have hconnected {c : Connection} (h : s.phase = .connected c) : s.health.stage ≠ .ended := by
    simp [health, h, Phase.stage]
  simp only [step]
  split
  next =>
    split
    · exact .quiet rfl
    · exact .quiet rfl
  next hphase => exact move_attempt (congrArg Phase.stage hphase) now
  next hphase =>
    split
    · exact move_attempt (congrArg Phase.stage hphase) now
    · exact hidle
  next hphase => exact .opened (congrArg Phase.stage hphase) rfl
  next hphase => exact move_lost (hdialing hphase) now _ _ _
  next hphase =>
    split
    · exact move_lost (hdialing hphase) now _ _ _
    · exact hidle
  next hphase => exact move_received (congrArg Phase.stage hphase) now _ _
  next hphase => exact move_write (congrArg Phase.stage hphase) now _ _
  next hphase =>
    split
    · exact move_ping (congrArg Phase.stage hphase) now _ hphase
    · exact hidle
  next hphase =>
    split
    · exact move_lost (hconnected hphase) now _ _ _
    · exact hidle
  next hphase => exact move_lost (hconnected hphase) now _ _ _
  next hphase => exact move_lost (hconnected hphase) now _ _ _
  next => exact hidle
  next hphase => exact move_hangUp (congrArg Phase.stage hphase)
  next hstopped hlost =>
    refine move_cancel ?_
    cases hphase : s.phase with
    | connected c => exact (hlost c hphase).elim
    | stopped => exact (hstopped hphase).elim
    | starting | dialing _ | waiting _ => exact congrArg Phase.stage hphase
  next => exact hidle

end Steps

/-- What a socket can say of its health without contradicting itself. -/
inductive Sound : Health → Prop
  | away (success : Bool) : Sound ⟨.away, .connecting, false, false, success⟩
  | unanswered (success : Bool) : Sound ⟨.on, .openUnhealthy, true, false, success⟩
  | healthy : Sound ⟨.on, .healthy, true, true, true⟩
  | ended {final : SocketState} (last : final = .givenUp ∨ final = .closed) (success : Bool) :
      Sound ⟨.ended, final, false, false, success⟩

namespace Sound
variable {a : Health}

theorem eq_of_away (h : Sound a) (away : a.stage = .away) :
    a = ⟨.away, .connecting, false, false, a.success⟩ := by
  cases h with
  | away success => rfl
  | unanswered | healthy | ended => nomatch away

theorem eq_of_silent (h : Sound a) (on : a.stage = .on) (silent : a.connected = false) :
    a = ⟨.on, .openUnhealthy, true, false, a.success⟩ := by
  cases h with
  | unanswered success => rfl
  | healthy => nomatch silent
  | away | ended => nomatch on

theorem eq_of_healthy (h : Sound a) (hstate : a.state = .healthy) :
    a = ⟨.on, .healthy, true, true, true⟩ := by
  cases h with
  | healthy => rfl
  | away | unanswered => nomatch hstate
  | ended last => rcases last with rfl | rfl <;> nomatch hstate

theorem state_eq_healthy_iff (h : Sound a) : a.state = .healthy ↔ a.connected = true := by
  cases h with
  | away | unanswered | healthy => simp
  | ended last => rcases last with rfl | rfl <;> simp

theorem of_openUnhealthy (h : Sound a) (hstate : a.state = .openUnhealthy) :
    a.opened = true ∧ a.connected = false := by
  cases h with
  | unanswered => exact ⟨rfl, rfl⟩
  | away | healthy => nomatch hstate
  | ended last => rcases last with rfl | rfl <;> nomatch hstate

theorem shut (h : Sound a) (hstate : a.state ∈ [.connecting, .givenUp, .closed]) :
    a.opened = false ∧ a.connected = false := by
  cases h with
  | away | ended => exact ⟨rfl, rfl⟩
  | unanswered | healthy => simp at hstate

theorem stage_eq_ended (h : Sound a) (hstate : a.state = .givenUp ∨ a.state = .closed) :
    a.stage = .ended := by
  cases h with
  | ended => rfl
  | away | unanswered | healthy => simp at hstate

theorem state_of_ended (h : Sound a) (ended : a.stage = .ended) :
    a.state = .givenUp ∨ a.state = .closed := by
  cases h with
  | ended last => exact last
  | away | unanswered | healthy => nomatch ended

end Sound

namespace Move
variable {e : SocketEvent T} {a : Health} {t : Socket T} {told : List ConnectionStatus}

theorem sound (h : Move e a t told) (ha : Sound a) : Sound t.health := by
  cases h with
  | quiet health => exact health ▸ ha
  | dialing away health =>
    rw [health, ha.eq_of_away away]
    exact .away _
  | givenUp away health =>
    rw [health]
    exact .ended (.inl rfl) _
  | opened away health =>
    rw [health, ha.eq_of_away away]
    exact .unanswered _
  | answered on silent health =>
    rw [health, ha.eq_of_silent on silent]
    exact .healthy
  | retreated live health =>
    rw [health]
    exact .away _
  | hungUp _ on health =>
    rw [health]
    exact .ended (.inr rfl) _
  | cancelled _ away health =>
    rw [health, ha.eq_of_away away]
    exact .ended (.inr rfl) _

/-- A socket that has stopped stays as it is. -/
theorem health_eq_of_ended (h : Move e a t told) (ended : a.stage = .ended) : t.health = a := by
  cases h with
  | quiet health => exact health
  | retreated live => exact (live ended).elim
  | dialing away | givenUp away | opened away | cancelled _ away => nomatch away.symm.trans ended
  | answered on | hungUp _ on => nomatch on.symm.trans ended

/-- The history of success is what the states were. -/
theorem success_eq (h : Move e a t told) (ha : Sound a) :
    t.status.success = (a.success || decide (t.state = .healthy)) := by
  cases h with
  | quiet health =>
    rw [state_of_health health, success_of_health health]
    cases ha with
    | away | unanswered | healthy => simp
    | ended last => rcases last with rfl | rfl <;> simp
  | dialing away health =>
    rw [state_of_health health, success_of_health health, ha.eq_of_away away]
    simp
  | answered on silent health =>
    rw [state_of_health health, success_of_health health]
    simp
  | givenUp _ health | opened _ health | retreated _ health | hungUp _ _ health
  | cancelled _ _ health =>
    rw [state_of_health health, success_of_health health]
    simp

theorem told_eq (h : Move e a t told) : told = [] ∨ told = [t.status] := by
  cases h with
  | dialing _ _ own => exact own
  | quiet | opened | hungUp | cancelled => exact .inl rfl
  | givenUp | answered | retreated => exact .inr rfl

/-- A closed socket does not open again. -/
theorem open_before (h : Move e a t told) (ha : Sound a) (hopen : t.state ≠ .closed) :
    a.state ≠ .closed := by
  intro hclosed
  have hsame := h.health_eq_of_ended (ha.stage_eq_ended (.inr hclosed))
  exact hopen ((state_of_health hsame).trans hclosed)

/-- A step that says nothing neither begins nor ends a time of health, unless it is the
last. -/
theorem healthy_iff_of_silent (h : Move e a t []) (ha : Sound a) (hopen : t.state ≠ .closed) :
    t.state = .healthy ↔ a.state = .healthy := by
  cases h with
  | quiet health => rw [state_of_health health]
  | dialing away health => rw [state_of_health health]
  | opened away health =>
    rw [state_of_health health, ha.eq_of_away away]
    simp
  | hungUp _ _ health | cancelled _ _ health => exact (hopen (state_of_health health)).elim

/-- A connection that was healthy before is not published as healthy again. -/
theorem unhealthy_of_told (h : Move e a t [t.status]) (ha : Sound a) (ht : t.state = .healthy) :
    a.state ≠ .healthy := by
  cases h with
  | dialing away =>
    rw [ha.eq_of_away away]
    nofun
  | answered on silent =>
    rw [ha.eq_of_silent on silent]
    nofun
  | givenUp _ health | retreated _ health => nomatch (state_of_health health).symm.trans ht

/-- A healthy connection is published when it becomes healthy, and only then. -/
theorem filter_connected (h : Move e a t told) (ha : Sound a) :
    told.filter (·.connected) =
      if a.state ≠ .healthy ∧ t.state = .healthy then [t.status] else [] := by
  rcases h.told_eq with rfl | rfl
  · have hnot : ¬(a.state ≠ .healthy ∧ t.state = .healthy) := by
      rintro ⟨hbefore, hafter⟩
      have hopen : t.state ≠ .closed := by rw [hafter]; nofun
      exact hbefore ((h.healthy_iff_of_silent ha hopen).mp hafter)
    rw [if_neg hnot, List.filter_nil]
  · have hagree : t.state = .healthy ↔ t.status.connected = true :=
      (h.sound ha).state_eq_healthy_iff
    have hnew : (a.state ≠ .healthy ∧ t.state = .healthy) ↔ t.status.connected = true := by
      constructor
      · intro hbecame
        exact hagree.mp hbecame.2
      · intro hconnected
        have hafter := hagree.mpr hconnected
        exact ⟨h.unhealthy_of_told ha hafter, hafter⟩
    simp only [hnew, List.filter_singleton, Bool.cond_eq_ite]

/-- Only a cancelled socket is closed. -/
theorem not_closed (h : Move e a t told) (hopen : a.state ≠ .closed) (he : e ≠ .cancel) :
    t.state ≠ .closed := by
  cases h with
  | quiet health | dialing _ health => rwa [state_of_health health]
  | givenUp _ health | opened _ health | answered _ _ health | retreated _ health =>
    rw [state_of_health health]
    nofun
  | hungUp cancel | cancelled cancel => exact (he cancel).elim

end Move

/-! ## Whole runs -/

theorem run_append (events more : List (Nat × SocketEvent T)) (s : Socket T) :
    s.run (events ++ more) =
      (((s.run events).1.run more).1, (s.run events).2 ++ ((s.run events).1.run more).2) := by
  induction events generalizing s with
  | nil => rfl
  | cons event events ih =>
    obtain ⟨now, e⟩ := event
    simp only [List.cons_append, run, ih, List.append_assoc]

theorem run_singleton (now : Nat) (e : SocketEvent T) (s : Socket T) :
    s.run [(now, e)] = s.step now e := by
  simp only [run, List.append_nil]

theorem run_snoc (events : List (Nat × SocketEvent T)) (now : Nat) (e : SocketEvent T)
    (s : Socket T) :
    s.run (events ++ [(now, e)]) =
      (((s.run events).1.step now e).1, (s.run events).2 ++ ((s.run events).1.step now e).2) := by
  rw [run_append, run_singleton]

theorem sound_start (settings : SocketSettings) (since : Nat) :
    Sound (start (T := T) settings since).health :=
  .away false

theorem sound_run {s : Socket T} (h : Sound s.health) (events : List (Nat × SocketEvent T)) :
    Sound (s.run events).1.health := by
  induction events generalizing s with
  | nil => exact h
  | cons event events ih => exact ih ((move_step s event.1 event.2).sound h)

/-- A socket that has stopped has stopped for good. -/
theorem health_run_of_ended {s : Socket T} (h : s.health.stage = .ended)
    (events : List (Nat × SocketEvent T)) : (s.run events).1.health = s.health := by
  induction events generalizing s with
  | nil => rfl
  | cons event events ih =>
    have hstep := (move_step s event.1 event.2).health_eq_of_ended h
    have hended : (s.step event.1 event.2).1.health.stage = .ended := by rw [hstep, h]
    exact (ih hended).trans hstep

/-- Whether the last of these statuses is that of a healthy connection. -/
def lastConnected (statuses : List ConnectionStatus) : Bool :=
  (statuses.getLast?.map ConnectionStatus.connected).getD false

theorem lastConnected_concat (statuses : List ConnectionStatus) (status : ConnectionStatus) :
    lastConnected (statuses ++ [status]) = status.connected := by
  simp [lastConnected]

/-- Of two statuses in a row, at most one tells of a healthy connection. -/
def Apart (statuses : List ConnectionStatus) : Prop :=
  statuses.IsChain fun a b => a.connected = false ∨ b.connected = false

theorem Apart.between {first between last : List ConnectionStatus} {a b : ConnectionStatus}
    (h : Apart (first ++ a :: between ++ b :: last)) (ha : a.connected = true)
    (hb : b.connected = true) : ∃ c ∈ between, c.connected = false := by
  have hrest : Apart (a :: between ++ b :: last) := by
    rw [List.append_assoc] at h
    exact (List.isChain_append.mp h).2.1
  cases between with
  | nil =>
    rcases (List.isChain_cons_cons.mp hrest).1 with hlost | hlost
    · exact nomatch ha.symm.trans hlost
    · exact nomatch hb.symm.trans hlost
  | cons c between =>
    rcases (List.isChain_cons_cons.mp hrest).1 with hlost | hlost
    · exact nomatch ha.symm.trans hlost
    · exact ⟨c, List.mem_cons_self, hlost⟩

/-- Whoever has heard all statuses knows whether the socket is healthy, until it is closed. -/
structure Heard (statuses : List ConnectionStatus) (s : Socket T) : Prop where
  last : s.state ≠ .closed → (lastConnected statuses = true ↔ s.state = .healthy)
  apart : Apart statuses

theorem heard_start (settings : SocketSettings) (since : Nat) :
    Heard [] (start (T := T) settings since) where
  last _ := by
    constructor
    · intro hconnected
      exact nomatch hconnected
    · intro hhealthy
      exact nomatch hhealthy
  apart := .nil

namespace Heard
variable {statuses : List ConnectionStatus} {s t : Socket T} {e : SocketEvent T}

theorem silent (h : Heard statuses s) (hs : Sound s.health) (hmove : Move e s.health t []) :
    Heard statuses t where
  last hopen := by
    have hbefore : s.state ≠ .closed := hmove.open_before hs hopen
    exact (h.last hbefore).trans (hmove.healthy_iff_of_silent hs hopen).symm
  apart := h.apart

theorem told (h : Heard statuses s) (hs : Sound s.health)
    (hmove : Move e s.health t [t.status]) : Heard (statuses ++ [t.status]) t := by
  have hagree : t.state = .healthy ↔ t.status.connected = true :=
    (hmove.sound hs).state_eq_healthy_iff
  constructor
  · intro _
    rw [lastConnected_concat]
    exact hagree.symm
  · refine List.isChain_append.mpr ⟨h.apart, .singleton _, ?_⟩
    intro status hlast told htold
    obtain rfl : t.status = told := Option.some.inj htold
    cases hconnected : t.status.connected with
    | false => exact .inr rfl
    | true =>
      have hafter := hagree.mpr hconnected
      have hbefore := hmove.unhealthy_of_told hs hafter
      have hopen : s.state ≠ .closed := hmove.open_before hs (by rw [hafter]; nofun)
      have hlost : lastConnected statuses ≠ true := mt (h.last hopen).mp hbefore
      rw [lastConnected, hlast] at hlost
      exact .inl (Bool.eq_false_of_not_eq_true hlost)

theorem step (h : Heard statuses s) (hs : Sound s.health) (now : Nat) (e : SocketEvent T) :
    Heard (statuses ++ Socket.told (s.step now e).2) (s.step now e).1 := by
  have hmove := move_step s now e
  rcases hmove.told_eq with htold | htold
  · rw [htold] at hmove ⊢
    rw [List.append_nil]
    exact h.silent hs hmove
  · rw [htold] at hmove ⊢
    exact h.told hs hmove

theorem run (h : Heard statuses s) (hs : Sound s.health) (events : List (Nat × SocketEvent T)) :
    Heard (statuses ++ Socket.told (s.run events).2) (s.run events).1 := by
  induction events generalizing s statuses with
  | nil =>
    rw [show Socket.told (s.run []).2 = [] from rfl, List.append_nil]
    exact h
  | cons event events ih =>
    have hrest := ih (h.step hs event.1 event.2) ((move_step s event.1 event.2).sound hs)
    rw [List.append_assoc, ← told_append] at hrest
    exact hrest

end Heard

theorem not_closed_run {s : Socket T} (h : s.state ≠ .closed)
    {events : List (Nat × SocketEvent T)} (hkept : ∀ event ∈ events, event.2 ≠ .cancel) :
    (s.run events).1.state ≠ .closed := by
  induction events generalizing s with
  | nil => exact h
  | cons event events ih =>
    obtain ⟨hfirst, hrest⟩ := List.forall_mem_cons.mp hkept
    exact ih ((move_step s event.1 event.2).not_closed h hfirst) hrest

/-- Success is to have been healthy. -/
theorem success_run_iff (settings : SocketSettings) (since : Nat)
    (events : List (Nat × SocketEvent T)) :
    ((start settings since).run events).1.status.success = true ↔
      ∃ earlier, earlier <+: events ∧ ((start settings since).run earlier).1.state = .healthy := by
  induction events using List.reverseRecOn with
  | nil =>
    constructor
    · intro hsuccess
      exact nomatch hsuccess
    · rintro ⟨earlier, hearlier, hhealthy⟩
      obtain rfl := List.prefix_nil.mp hearlier
      exact nomatch hhealthy
  | append_singleton events event ih =>
    have hsound := sound_run (sound_start (T := T) settings since) events
    have hstep := (move_step _ event.1 event.2).success_eq hsound
    rw [run_snoc, hstep, Bool.or_eq_true, decide_eq_true_iff]
    constructor
    · rintro (hbefore | hnow)
      · obtain ⟨earlier, hearlier, hhealthy⟩ := ih.mp hbefore
        exact ⟨earlier, hearlier.trans (List.prefix_append _ _), hhealthy⟩
      · refine ⟨events ++ [event], List.prefix_rfl, ?_⟩
        rw [run_snoc]
        exact hnow
    · rintro ⟨earlier, hearlier, hhealthy⟩
      rcases List.prefix_concat_iff.mp hearlier with rfl | hbefore
      · rw [run_snoc] at hhealthy
        exact .inr hhealthy
      · exact .inl (ih.mpr ⟨earlier, hbefore, hhealthy⟩)

/-- State, status and published statuses of a socket agree, and a supervisor that follows
the statuses is on the socket exactly while it is healthy. -/
theorem states_agree (settings : SocketSettings) (since : Nat)
    (events : List (Nat × SocketEvent T)) :
    let (s, effects) := (start settings since).run events
    (s.state = .healthy ↔ s.status.connected = true) ∧
    (s.state = .openUnhealthy → s.status.opened = true ∧ s.status.connected = false) ∧
    (s.state ∈ [.connecting, .givenUp, .closed] →
      s.status.opened = false ∧ s.status.connected = false) ∧
    (s.status.success = true ↔ ∃ earlier, earlier <+: events ∧
      ((start settings since).run earlier).1.state = .healthy) ∧
    (s.state = .givenUp ∨ s.state = .closed → ∀ more,
      ((start settings since).run (events ++ more)).1.state = s.state) ∧
    (∀ now e, let (t, effects) := s.step now e
      (told effects).filter (·.connected) =
        if s.state ≠ .healthy ∧ t.state = .healthy then [t.status] else []) ∧
    (∀ first a between b last, told effects = first ++ a :: between ++ b :: last →
      a.connected = true → b.connected = true → ∃ c ∈ between, c.connected = false) ∧
    ((∀ event ∈ events, event.2 ≠ .cancel) → ∀ v : Supervisor, v.hasSocket = true →
      v.onSocket = false → ((v.after (told effects)).current = .socket ↔ s.state = .healthy)) := by
  have hsound := sound_run (sound_start (T := T) settings since) events
  have hheard := (heard_start (T := T) settings since).run (sound_start settings since) events
  rw [List.nil_append] at hheard
  refine ⟨hsound.state_eq_healthy_iff, hsound.of_openUnhealthy, hsound.shut,
    success_run_iff settings since events, ?_, ?_, ?_, ?_⟩
  · intro hended more
    have hstay := health_run_of_ended (hsound.stage_eq_ended hended) more
    rw [run_append]
    exact state_of_health hstay
  · intro now e
    exact (move_step _ now e).filter_connected hsound
  · intro first a between b last htold ha hb
    exact (htold ▸ hheard.apart).between ha hb
  · intro hkept v hsocket hpolling
    have hopen := not_closed_run (s := start settings since) nofun hkept
    rw [Supervisor.current_eq_socket_iff, Supervisor.onSocket_after hsocket, hpolling]
    exact hheard.last hopen

/-- A connection is lost after it was healthy and the next one is healthy again: the
supervisor is back on the socket. -/
theorem states_agree_again :
    let events : List (Nat × SocketEvent Unit) :=
      [(0, .attempt), (1, .dialed), (2, .payload true), (3, .serverClosed none),
       (100000, .attempt), (100001, .dialed), (100002, .payload true)]
    let (s, effects) := (start {} 0).run events
    s.state = .healthy ∧ (told effects).map (·.connected) = [true, false, true] ∧
      (Supervisor.after (told effects) { hasSocket := true }).current = .socket := by
  intro events
  obtain ⟨-, -, -, -, -, -, -, follows⟩ := states_agree {} 0 events
  have hhealthy : ((start {} 0).run events).1.state = .healthy := by rfl
  have hkept : ∀ event ∈ events, event.2 ≠ .cancel := by simp [events]
  exact ⟨hhealthy, by rfl, (follows hkept _ rfl rfl).mpr hhealthy⟩

end TopicClient.Socket
