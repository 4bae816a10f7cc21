import Mathlib.Data.UInt
import Mathlib.Tactic.Ring
import TopicClient.Proofs.Attempts

/-!
# Sessions

A session is the life of an open connection that nothing breaks: traffic of any kind comes when
it likes, and timers go off when they are due. All that moves the timers of a connection is its
own pings and the first pong; a connection without a deadline lasts as long as nothing breaks it.
-/

namespace TopicClient

/-- Frames that are queued and written, and payloads that arrive. -/
def SocketEvent.isTraffic {T : Type} : SocketEvent T → Bool
  | .enqueue _ | .write none | .payload _ => true
  | _ => false

namespace Connection

/-- No timer of the connection is set for an earlier moment. -/
structure Ahead (moment : Nat) (c : Connection) : Prop where
  ping : moment ≤ c.nextPing
  pong : ∀ d, c.pongDeadline = some d → moment ≤ d

/-- The connection after its first pong. -/
def answered (settings : SocketSettings) (now : Nat) (c : Connection) : Connection :=
  let interval := settings.healthyPingIntervalMs.toNat
  { c with healthy := true, interval, nextPing := now + interval, pongDeadline := none }

/-- A connection that has just been opened. -/
def fresh (settings : SocketSettings) (opened : Nat) : Connection :=
  { interval := settings.pingIntervalMs.toNat
    nextPing := opened
    pongDeadline := some (opened + settings.pongTimeoutMs.toNat) }

/-- The connection after so many more pings, each at its time. -/
def later (n : Nat) (c : Connection) : Connection :=
  { c with token := c.token + .ofNat n, nextPing := c.nextPing + n * c.interval }

/-- The moment and the token of the pings to come. -/
def pingAt (c : Connection) (k : Nat) : Nat × UInt64 :=
  (c.nextPing + k * c.interval, c.token + .ofNat (k + 1))

theorem later_zero (c : Connection) : c.later 0 = c := by
  simp [later]

theorem later_succ (n : Nat) (c : Connection) :
    { c.later n with
      token := (c.later n).token + 1, nextPing := (c.later n).nextPing + c.interval } =
      c.later (n + 1) := by
  simp [later, UInt64.ofNat_add, add_assoc, add_mul]

theorem pingAt_later (n : Nat) (c : Connection) :
    ((c.later n).nextPing, (c.later n).token + 1) = c.pingAt n := by
  simp [later, pingAt, UInt64.ofNat_add, add_assoc]

theorem pingAt_fresh (settings : SocketSettings) (opened : Nat) :
    (fresh settings opened).pingAt =
      fun k => (opened + k * settings.pingIntervalMs.toNat, .ofNat (k + 1)) := by
  funext k
  simp [pingAt, fresh]

theorem pingAt_answered (settings : SocketSettings) (opened since m : Nat) :
    (((fresh settings opened).later m).answered settings since).pingAt =
      fun k => (since + (k + 1) * settings.healthyPingIntervalMs.toNat, .ofNat (m + k + 1)) := by
  funext k
  have hmoment (h : Nat) : since + h + k * h = since + (k + 1) * h := by ring
  simp [pingAt, answered, later, fresh, hmoment, UInt64.ofNat_add, add_assoc]

/-- A connection that keeps pinging, with no deadline but the one of its opening. -/
structure Paced (settings : SocketSettings) (opened : Nat) (c : Connection) : Prop where
  interval : 0 < c.interval
  deadline : ∀ d, c.pongDeadline = some d → d = opened + settings.pongTimeoutMs.toNat

theorem paced_fresh {settings : SocketSettings} (opened : Nat)
    (hping : 0 < settings.pingIntervalMs.toNat) : (fresh settings opened).Paced settings opened :=
  ⟨hping, fun _ hd => (Option.some.inj hd).symm⟩

theorem Ahead.mono {moment earlier : Nat} {c : Connection} (h : c.Ahead moment)
    (hle : earlier ≤ moment) : c.Ahead earlier :=
  ⟨hle.trans h.ping, fun d hd => hle.trans (h.pong d hd)⟩

theorem ahead_fresh (settings : SocketSettings) (opened : Nat) :
    (fresh settings opened).Ahead opened := by
  refine ⟨le_rfl, fun d hd => ?_⟩
  rw [← Option.some.inj hd]
  exact Nat.le_add_right _ _

end Connection

namespace Socket
variable {T : Type}

/-- An event of an open connection that neither fails nor closes it, in its time: timers go off
when they are due, and nothing comes while one is overdue. -/
def Fits (now : Nat) (e : SocketEvent T) (s : Socket T) : Prop :=
  s.isConnected = true ∧ (∀ timer ∈ s.timers, now ≤ timer.1) ∧
    (e.isTraffic = true ∨ (now, e) ∈ s.timers)

def Fitting (s : Socket T) : List (Nat × SocketEvent T) → Prop
  | [] => True
  | (now, e) :: rest => s.Fits now e ∧ (s.step now e).1.Fitting rest

/-- Events in their order and in their time, from the moment a connection opens and before
another one. -/
structure Timely (opened upTo : Nat) (s : Socket T) (events : List (Nat × SocketEvent T)) :
    Prop where
  ordered : (opened :: events.map Prod.fst).Pairwise (· ≤ ·)
  fitting : s.Fitting events
  past : ∀ e ∈ events, e.1 < upTo

/-- All that an open connection meets before that moment: any traffic, and its timers, each when
it is due. -/
structure Session (opened upTo : Nat) (s : Socket T) (events : List (Nat × SocketEvent T)) :
    Prop extends Timely opened upTo s events where
  reached : (s.run events).1.isConnected = true → ∀ timer ∈ (s.run events).1.timers, upTo ≤ timer.1

/-- The tokens of the pings among the effects. -/
def pinged (effects : List (SocketEffect T)) : List UInt64 :=
  effects.filterMap fun
    | .pinged token => some token
    | _ => none

/-- The pings of a run, each with its moment and its token. -/
def pings (s : Socket T) : List (Nat × SocketEvent T) → List (Nat × UInt64)
  | [] => []
  | (now, e) :: rest => (pinged (s.step now e).2).map (now, ·) ++ (s.step now e).1.pings rest

theorem forall_timers_iff {s : Socket T} {c : Connection} (hphase : s.phase = .connected c)
    (moment : Nat) : (∀ timer ∈ s.timers, moment ≤ timer.1) ↔ c.Ahead moment := by
  simp only [timers, hphase, List.forall_mem_cons, Option.mem_toList, Option.map_eq_some_iff]
  constructor
  · rintro ⟨hping, hpong⟩
    exact ⟨hping, fun d hd => hpong _ ⟨d, hd, rfl⟩⟩
  · rintro h
    refine ⟨h.ping, ?_⟩
    rintro _ ⟨d, hd, rfl⟩
    exact h.pong d hd

theorem mem_timers_iff {s : Socket T} {c : Connection} (hphase : s.phase = .connected c)
    (moment : Nat) (e : SocketEvent T) : (moment, e) ∈ s.timers ↔
      e = .pingDue none ∧ c.nextPing = moment ∨
        e = .pongOverdue ∧ c.pongDeadline = some moment := by
  simp only [timers, hphase, List.mem_cons, Option.mem_toList, Option.map_eq_some_iff,
    Prod.mk.injEq]
  constructor
  · rintro (⟨rfl, rfl⟩ | ⟨d, hd, rfl, rfl⟩)
    · exact .inl ⟨rfl, rfl⟩
    · exact .inr ⟨rfl, hd⟩
  · rintro (⟨rfl, rfl⟩ | ⟨rfl, hd⟩)
    · exact .inl ⟨rfl, rfl⟩
    · exact .inr ⟨moment, hd, rfl, rfl⟩

theorem fits_iff {s : Socket T} {c : Connection} (hphase : s.phase = .connected c) (now : Nat)
    (e : SocketEvent T) : s.Fits now e ↔ c.Ahead now ∧
      (e.isTraffic = true ∨ e = .pingDue none ∧ c.nextPing = now ∨
        e = .pongOverdue ∧ c.pongDeadline = some now) := by
  have hconnected : s.isConnected = true := s.isConnected_iff.mpr ⟨c, hphase⟩
  rw [Fits, forall_timers_iff hphase, mem_timers_iff hphase]
  exact and_iff_right hconnected

theorem Fits.exists_connection {s : Socket T} {now : Nat} {e : SocketEvent T} (h : s.Fits now e) :
    ∃ c, s.phase = .connected c :=
  s.isConnected_iff.mp h.1

theorem Session.ahead {opened upTo : Nat} {s : Socket T} {events : List (Nat × SocketEvent T)}
    (h : Session opened upTo s events) {c : Connection}
    (hphase : (s.run events).1.phase = .connected c) : c.Ahead upTo :=
  (forall_timers_iff hphase upTo).mp (h.reached ((isConnected_iff _).mpr ⟨c, hphase⟩))

theorem fitting_append (events more : List (Nat × SocketEvent T)) (s : Socket T) :
    s.Fitting (events ++ more) ↔ s.Fitting events ∧ (s.run events).1.Fitting more := by
  induction events generalizing s with
  | nil => simp [Fitting, run]
  | cons event events ih =>
    obtain ⟨now, e⟩ := event
    simp only [List.cons_append, Fitting, run, ih, and_assoc]

theorem fitting_snoc (events : List (Nat × SocketEvent T)) (now : Nat) (e : SocketEvent T)
    (s : Socket T) :
    s.Fitting (events ++ [(now, e)]) ↔ s.Fitting events ∧ (s.run events).1.Fits now e := by
  simp [fitting_append, Fitting]

theorem pings_append (events more : List (Nat × SocketEvent T)) (s : Socket T) :
    s.pings (events ++ more) = s.pings events ++ (s.run events).1.pings more := by
  induction events generalizing s with
  | nil => rfl
  | cons event events ih =>
    obtain ⟨now, e⟩ := event
    simp only [List.cons_append, pings, ih, List.append_assoc, run]

theorem pings_singleton (now : Nat) (e : SocketEvent T) (s : Socket T) :
    s.pings [(now, e)] = (pinged (s.step now e).2).map (now, ·) := by
  simp [pings]

/-- A ping goes out at the moment of an event. -/
theorem moment_of_ping {events : List (Nat × SocketEvent T)} {s : Socket T}
    {x : Nat × UInt64} (h : x ∈ s.pings events) : ∃ e ∈ events, e.1 = x.1 := by
  induction events generalizing s with
  | nil => cases h
  | cons event events ih =>
    obtain ⟨now, e⟩ := event
    rw [pings, List.mem_append] at h
    rcases h with hnow | hlater
    · obtain ⟨token, -, rfl⟩ := List.mem_map.mp hnow
      exact ⟨_, List.mem_cons_self, rfl⟩
    · obtain ⟨e, he, heq⟩ := ih hlater
      exact ⟨e, List.mem_cons_of_mem _ he, heq⟩

theorem settings_step (s : Socket T) (now : Nat) (e : SocketEvent T) :
    (s.step now e).1.settings = s.settings := by
  have h := course_step now e s
  generalize s.step now e = r at h
  cases h with
  | begun due =>
    simp only [attempt]
    split <;> rfl
  | received connected isPong =>
    rw [received]
    split <;> rfl
  | _ => rfl

theorem settings_run (s : Socket T) (events : List (Nat × SocketEvent T)) :
    (s.run events).1.settings = s.settings := by
  induction events generalizing s with
  | nil => rfl
  | cons event events ih => exact (ih _).trans (settings_step s event.1 event.2)

/-! ## One event -/

/-- The socket is on this connection, and knows whether it is healthy. -/
structure On (settings : SocketSettings) (c : Connection) (s : Socket T) : Prop where
  settings : s.settings = settings
  phase : s.phase = .connected c
  state : s.state = if c.healthy then .healthy else .openUnhealthy
  connected : s.status.connected = c.healthy

/-- What an event comes to that fits a connection. -/
inductive Beat (settings : SocketSettings) (c : Connection) (now : Nat) (e : SocketEvent T)
    (s : Socket T) : Prop
  | quiet (on : (s.step now e).1.On settings c) (unpinged : pinged (s.step now e).2 = [])
      (untold : told (s.step now e).2 = [])
  | ping (isPing : e = .pingDue none) (due : c.nextPing = now)
      (on : (s.step now e).1.On settings
        { c with token := c.token + 1, nextPing := now + c.interval })
      (effects : (s.step now e).2 = [.pinged (c.token + 1)])
  | pong (isPong : e = .payload true) (silent : c.healthy = false)
  | overdue (isOverdue : e = .pongOverdue) (due : c.pongDeadline = some now)

theorem on_opened {settings : SocketSettings} {since : Nat}
    {before : List (Nat × SocketEvent T)} {d : Nat}
    (dialing : ((start settings since).run before).1.phase = .dialing d) (opened : Nat) :
    (((start settings since).run before).1.step opened .dialed).1.On settings
      (.fresh settings opened) := by
  have hsettings : ((start settings since).run before).1.settings = settings :=
    settings_run _ before
  have haway := (sound_run (sound_start settings since) before).eq_of_away
    (congrArg Phase.stage dialing)
  have hsilent : ((start settings since).run before).1.status.connected = false :=
    congrArg Health.connected haway
  simp only [step, dialing, Socket.opened, hsettings]
  exact ⟨rfl, rfl, rfl, hsilent⟩

section Steps
variable {settings : SocketSettings} {c : Connection} {s : Socket T} {now : Nat}

theorem On.of_payload (h : s.On settings c) (isPong : Bool)
    (hpong : isPong = true → c.healthy = true) :
    (s.step now (.payload isPong)).1.On settings c ∧ (s.step now (.payload isPong)).2 = [] := by
  have hfirst : (isPong && !s.status.connected) = false := by
    rw [h.connected]
    cases isPong with
    | false => rfl
    | true => rw [hpong rfl]; rfl
  simp only [step, h.phase, received, ConnectionStatus.onMessage, hfirst]
  exact ⟨⟨h.settings, rfl, h.state, h.connected⟩, rfl⟩

theorem On.of_pong (h : s.On settings c) (hsilent : c.healthy = false) (now : Nat) :
    (s.step now (.payload true)).1.On settings (c.answered settings now) ∧
      pinged (s.step now (.payload true)).2 = [] ∧
      ∃ status, told (s.step now (.payload true)).2 = [status] ∧ status.connected = true := by
  have hfirst : (true && !s.status.connected) = true := by
    rw [h.connected, hsilent]
    rfl
  simp only [step, h.phase, received, ConnectionStatus.onMessage, hfirst, h.settings]
  exact ⟨⟨rfl, rfl, rfl, rfl⟩, rfl, _, rfl, rfl⟩

theorem On.of_ping (h : s.On settings c) (hdue : c.nextPing ≤ now) :
    (s.step now (.pingDue none)).1.On settings
        { c with token := c.token + 1, nextPing := now + c.interval } ∧
      (s.step now (.pingDue none)).2 = [.pinged (c.token + 1)] := by
  simp only [step, h.phase, if_pos hdue, ping]
  exact ⟨⟨h.settings, rfl, h.state, h.connected⟩, trivial⟩

theorem On.of_overdue (h : s.On settings c) (hdue : c.pongDeadline = some now) :
    let t := (s.step now .pongOverdue).1
    (∃ d, t.phase = .waiting d) ∧ t.state = .connecting ∧
      t.status.lastEvent?.map StatusEvent.name = some "pongTimeout" ∧
      pinged (s.step now .pongOverdue).2 = [] ∧
      ∃ status, told (s.step now .pongOverdue).2 = [status] ∧ status.connected = false := by
  have hany : c.pongDeadline.any (· ≤ now) = true := by
    rw [hdue]
    simp
  simp only [step, h.phase, hany, if_true]
  refine ⟨⟨_, rfl⟩, rfl, ?_, rfl, _, rfl, rfl⟩
  simp [lost, retreat, ConnectionStatus.record, ConnectionStatus.markDisconnected,
    ConnectionStatus.lastEvent?]

theorem On.of_enqueue (h : s.On settings c) (f : Frame T) :
    (s.step now (.enqueue f)).1.On settings c ∧ (s.step now (.enqueue f)).2 = [] := by
  have hlive : s.refusal? = none := if_neg (by rw [h.phase]; nofun)
  simp only [step, hlive]
  exact ⟨⟨h.settings, h.phase, h.state, h.connected⟩, trivial⟩

theorem On.of_write (h : s.On settings c) :
    (s.step now (.write none)).1.On settings c ∧ pinged (s.step now (.write none)).2 = [] ∧
      told (s.step now (.write none)).2 = [] := by
  simp only [step, h.phase, write]
  cases s.queue with
  | nil => exact ⟨h, rfl, rfl⟩
  | cons f rest => exact ⟨⟨h.settings, rfl, h.state, h.connected⟩, rfl, rfl⟩

theorem On.of_traffic (h : s.On settings c) {e : SocketEvent T} (he : e.isTraffic = true) :
    Beat settings c now e s := by
  cases e with
  | enqueue f =>
    obtain ⟨hon, heffects⟩ := h.of_enqueue f
    exact .quiet hon (by rw [heffects]; rfl) (by rw [heffects]; rfl)
  | write fault =>
    cases fault with
    | none =>
      obtain ⟨hon, hpinged, htold⟩ := h.of_write
      exact .quiet hon hpinged htold
    | some text => cases he
  | payload isPong =>
    by_cases hfirst : isPong = true ∧ c.healthy = false
    · obtain ⟨rfl, hsilent⟩ := hfirst
      exact .pong rfl hsilent
    · obtain ⟨hon, heffects⟩ := h.of_payload isPong (by simpa using hfirst)
      exact .quiet hon (by rw [heffects]; rfl) (by rw [heffects]; rfl)
  | _ => cases he

theorem On.beat (h : s.On settings c) {e : SocketEvent T} (hfits : s.Fits now e) :
    Beat settings c now e s ∧ c.Ahead now := by
  obtain ⟨hahead, he⟩ := (fits_iff h.phase now e).mp hfits
  refine ⟨?_, hahead⟩
  rcases he with htraffic | ⟨rfl, hdue⟩ | ⟨rfl, hdue⟩
  · exact h.of_traffic htraffic
  · obtain ⟨hon, heffects⟩ := h.of_ping hdue.le
    exact .ping rfl hdue hon heffects
  · exact .overdue rfl hdue

end Steps

/-! ## Sessions, event by event -/

section Runs
variable {settings : SocketSettings} {c : Connection} {s : Socket T}
  {events : List (Nat × SocketEvent T)}

/-- Until the first pong or the deadline, and from the first pong on, a connection pings at its
interval and does nothing else. -/
theorem On.run (h : s.On settings c) (fitting : s.Fitting events)
    (hquiet : ∀ e ∈ events, (e.2 = .payload true → c.healthy = true) ∧
      (e.2 = .pongOverdue → c.pongDeadline = none)) :
    ∃ n, (s.run events).1.On settings (c.later n) ∧
      s.pings events = (List.range n).map c.pingAt ∧ told (s.run events).2 = [] := by
  induction events using List.reverseRecOn with
  | nil => exact ⟨0, by rwa [c.later_zero], rfl, rfl⟩
  | append_singleton events event ih =>
    obtain ⟨now, e⟩ := event
    obtain ⟨hbefore, hfits⟩ := (fitting_snoc events now e s).mp fitting
    obtain ⟨n, hon, hpings, htold⟩ := ih hbefore fun e he => hquiet e (List.mem_append_left _ he)
    obtain ⟨hpong, hoverdue⟩ := hquiet (now, e) (by simp)
    rw [pings_append, pings_singleton, run_snoc, hpings]
    obtain ⟨hbeat, -⟩ := hon.beat hfits
    cases hbeat with
    | quiet hstep hpinged hquietly =>
      refine ⟨n, hstep, ?_, ?_⟩
      · rw [hpinged]
        simp
      · rw [told_append, htold, hquietly]
        rfl
    | ping isPing due hstep heffects =>
      subst due
      refine ⟨n + 1, ?_, ?_, ?_⟩
      · rw [← c.later_succ]
        exact hstep
      · rw [heffects, List.range_succ, List.map_append]
        exact congrArg _ (congrArg (fun x => [x]) (c.pingAt_later n))
      · rw [told_append, htold, heffects]
        rfl
    | pong isPong silent =>
      cases silent.symm.trans (hpong isPong)
    | overdue isOverdue due =>
      cases due.symm.trans (hoverdue isOverdue)

theorem Fits.deadline {now : Nat} (h : s.Fits now .pongOverdue) :
    ∃ c, s.phase = .connected c ∧ c.pongDeadline = some now := by
  obtain ⟨c, hphase⟩ := h.exists_connection
  obtain ⟨-, htraffic | ⟨hping, -⟩ | ⟨-, hdue⟩⟩ := (fits_iff hphase now .pongOverdue).mp h
  · cases htraffic
  · cases hping
  · exact ⟨c, hphase, hdue⟩

theorem waiting_of_overdue {now : Nat} (h : s.Fits now .pongOverdue) :
    ∃ d, (s.step now .pongOverdue).1.phase = .waiting d := by
  obtain ⟨c, hphase, hdue⟩ := h.deadline
  have hany : c.pongDeadline.any (· ≤ now) = true := by
    rw [hdue]
    simp
  simp only [step, hphase, hany]
  exact ⟨_, rfl⟩

/-- The deadline comes last. -/
theorem last_of_overdue {first rest : List (Nat × SocketEvent T)} {now : Nat}
    (h : s.Fitting (first ++ (now, .pongOverdue) :: rest)) : rest = [] := by
  cases rest with
  | nil => rfl
  | cons event rest =>
    obtain ⟨-, hfits, hlater, -⟩ := (fitting_append _ _ s).mp h
    obtain ⟨d, hwaiting⟩ := waiting_of_overdue hfits
    obtain ⟨c, hphase⟩ := hlater.exists_connection
    cases hwaiting.symm.trans hphase

/-- So it does not come before anything else. -/
theorem no_overdue_before {first rest : List (Nat × SocketEvent T)}
    {event : Nat × SocketEvent T} (h : s.Fitting (first ++ event :: rest)) :
    ∀ e ∈ first, e.2 ≠ .pongOverdue := by
  rintro ⟨now, e⟩ he rfl
  obtain ⟨a, b, rfl⟩ := List.append_of_mem he
  rw [List.append_assoc, List.cons_append] at h
  exact List.append_ne_nil_of_right_ne_nil b (List.cons_ne_nil event rest) (last_of_overdue h)

theorem On.deadline_of_overdue (h : s.On settings c) {now : Nat}
    (hfits : s.Fits now .pongOverdue) : c.pongDeadline = some now := by
  obtain ⟨c', hphase, hdue⟩ := hfits.deadline
  obtain rfl := Phase.connected.inj (h.phase.symm.trans hphase)
  exact hdue

/-- Without a deadline it does not come at all. -/
theorem On.no_overdue (h : s.On settings c) (fitting : s.Fitting events)
    (hhealthy : c.healthy = true) (hnone : c.pongDeadline = none) :
    ∀ e ∈ events, e.2 ≠ .pongOverdue := by
  rintro ⟨now, e⟩ he rfl
  obtain ⟨first, rest, rfl⟩ := List.append_of_mem he
  obtain ⟨hfirst, hfits, -⟩ := (fitting_append _ _ s).mp fitting
  obtain ⟨n, hon, -⟩ := h.run hfirst fun _ _ => ⟨fun _ => hhealthy, fun _ => hnone⟩
  cases (hon.deadline_of_overdue hfits).symm.trans hnone

/-- What holds of the moments of all events holds of the moments of all pings. -/
theorem pings_at {p : Nat → Prop} (hevents : ∀ e ∈ events, p e.1) {n : Nat}
    (hpings : s.pings events = (List.range n).map c.pingAt) :
    ∀ k < n, p (c.nextPing + k * c.interval) := by
  intro k hk
  have hmem : c.pingAt k ∈ s.pings events := by
    rw [hpings]
    exact List.mem_map_of_mem (List.mem_range.mpr hk)
  obtain ⟨e, he, heq⟩ := moment_of_ping hmem
  rw [show c.nextPing + k * c.interval = e.1 from heq.symm]
  exact hevents e he

theorem Session.le_of_before {opened upTo now : Nat} {e : SocketEvent T}
    {before after : List (Nat × SocketEvent T)}
    (h : Session opened upTo s (before ++ (now, e) :: after)) : ∀ e ∈ before, e.1 ≤ now := by
  have hordered := (List.pairwise_cons.mp h.ordered).2
  rw [List.map_append, List.pairwise_append] at hordered
  intro e he
  exact hordered.2.2 e.1 (List.mem_map_of_mem he) now (by simp)

theorem run_through (before later : List (Nat × SocketEvent T)) (now : Nat) (e : SocketEvent T)
    (s : Socket T) :
    s.run (before ++ (now, e) :: later) =
      let t := (s.run before).1.step now e
      ((t.1.run later).1, (s.run before).2 ++ (t.2 ++ (t.1.run later).2)) := by
  rw [run_append]
  rfl

end Runs

/-! ## Any traffic has a session -/

theorem Timely.mono {opened upTo later : Nat} {s : Socket T}
    {events : List (Nat × SocketEvent T)} (h : Timely opened upTo s events) (hle : upTo ≤ later) :
    Timely opened later s events :=
  ⟨h.ordered, h.fitting, fun e he => (h.past e he).trans_le hle⟩

theorem Timely.snoc {opened now : Nat} {s : Socket T} {events : List (Nat × SocketEvent T)}
    (h : Timely opened (now + 1) s events) (hle : opened ≤ now) {e : SocketEvent T}
    (hfits : (s.run events).1.Fits now e) : Timely opened (now + 1) s (events ++ [(now, e)]) := by
  refine ⟨?_, (fitting_snoc events now e s).mpr ⟨h.fitting, hfits⟩, ?_⟩
  · rw [List.map_append, ← List.cons_append, List.pairwise_append]
    refine ⟨h.ordered, List.pairwise_singleton _ _, ?_⟩
    intro moment hmoment last hlast
    rw [List.mem_singleton.mp hlast]
    rcases List.mem_cons.mp hmoment with rfl | hmem
    · exact hle
    · obtain ⟨event, hevent, rfl⟩ := List.mem_map.mp hmem
      exact Nat.le_of_lt_succ (h.past event hevent)
  · intro event hevent
    rcases List.mem_append.mp hevent with hmem | hmem
    · exact h.past event hmem
    · rw [List.mem_singleton.mp hmem]
      exact Nat.lt_succ_self now

/-- The session has met this traffic, all but what came too late for it. -/
structure Meets (settings : SocketSettings) (opened upTo : Nat) (s : Socket T)
    (traffic events missed : List (Nat × SocketEvent T)) : Prop where
  session : Session opened upTo s events
  met : events.filter (·.2.isTraffic) ++ missed = traffic
  late : ∀ e ∈ missed, opened + settings.pongTimeoutMs.toNat ≤ e.1
  alive : ¬ (s.run events).1.isConnected = true ∧ opened + settings.pongTimeoutMs.toNat < upTo ∨
    missed = [] ∧ ∃ c, (s.run events).1.On settings c ∧ c.Paced settings opened

section Existence
variable {settings : SocketSettings} {opened now : Nat} {s : Socket T}
  {traffic events missed : List (Nat × SocketEvent T)}

/-- The ping that is due now goes out. -/
theorem On.pings_now {c : Connection} (h : (s.run events).1.On settings c)
    (timely : Timely opened (now + 1) s events) (hle : opened ≤ now)
    (paced : c.Paced settings opened) (ahead : c.Ahead now) :
    ∃ more c', Timely opened (now + 1) s (events ++ more) ∧
      more.filter (·.2.isTraffic) = [] ∧ (s.run (events ++ more)).1.On settings c' ∧
      c'.Paced settings opened ∧ now < c'.nextPing ∧ c'.pongDeadline = c.pongDeadline := by
  by_cases hdue : c.nextPing = now
  · refine ⟨[(now, .pingDue none)],
      { c with token := c.token + 1, nextPing := now + c.interval }, ?_, rfl, ?_,
      ⟨paced.interval, paced.deadline⟩, ?_, rfl⟩
    · exact timely.snoc hle ((fits_iff h.phase _ _).mpr ⟨ahead, .inr (.inl ⟨rfl, hdue⟩)⟩)
    · rw [run_snoc]
      exact (h.of_ping hdue.le).1
    · exact Nat.lt_add_of_pos_right paced.interval
  · refine ⟨[], c, ?_, rfl, ?_, paced, ?_, rfl⟩
    · rwa [List.append_nil]
    · rwa [List.append_nil]
    · exact lt_of_le_of_ne ahead.ping (Ne.symm hdue)

/-- The deadline that is due now ends the session. -/
theorem On.ends_now {c : Connection} (h : (s.run events).1.On settings c)
    (timely : Timely opened (now + 1) s events) (hle : opened ≤ now)
    (ahead : c.Ahead now) (hlate : c.pongDeadline = some now) :
    Timely opened (now + 1) s (events ++ [(now, .pongOverdue)]) ∧
      ¬ (s.run (events ++ [(now, .pongOverdue)])).1.isConnected = true := by
  have hfits : (s.run events).1.Fits now .pongOverdue :=
    (fits_iff h.phase _ _).mpr ⟨ahead, .inr (.inr ⟨rfl, hlate⟩)⟩
  refine ⟨timely.snoc hle hfits, ?_⟩
  obtain ⟨d, hwaiting⟩ := waiting_of_overdue hfits
  rw [run_snoc, isConnected, hwaiting]
  exact Bool.false_ne_true

/-- A moment passes, and the timers that are due go off. -/
theorem Meets.tick (h : Meets settings opened now s traffic events missed) (hle : opened ≤ now) :
    ∃ events, Meets settings opened (now + 1) s traffic events missed := by
  have htimely := h.session.toTimely.mono (Nat.le_succ now)
  rcases h.alive with ⟨hdead, hpast⟩ | ⟨hmissed, c, hon, hpaced⟩
  · exact ⟨events, ⟨htimely, fun hconnected => absurd hconnected hdead⟩, h.met, h.late,
      .inl ⟨hdead, hpast.trans (Nat.lt_succ_self now)⟩⟩
  · have hahead := h.session.ahead hon.phase
    obtain ⟨more, c', htimely', hmore, hon', hpaced', hnext, hsame⟩ :=
      hon.pings_now htimely hle hpaced hahead
    have hmet : (events ++ more).filter (·.2.isTraffic) ++ missed = traffic := by
      rw [List.filter_append, hmore, List.append_nil, h.met]
    have hahead' : c'.Ahead now := ⟨hnext.le, fun d hd => hahead.pong d (hsame.symm.trans hd)⟩
    by_cases hlate : c'.pongDeadline = some now
    · obtain ⟨hlast, hdead⟩ := hon'.ends_now htimely' hle hahead' hlate
      refine ⟨_, ⟨hlast, fun hconnected => absurd hconnected hdead⟩, ?_, h.late,
        .inl ⟨hdead, ?_⟩⟩
      · rw [List.filter_append, ← hmet]
        exact congrArg (· ++ missed) (List.append_nil _)
      · exact Nat.lt_succ_of_le (hpaced'.deadline now hlate).ge
    · refine ⟨events ++ more, ⟨htimely', fun _ => ?_⟩, hmet, h.late,
        .inr ⟨hmissed, c', hon', hpaced'⟩⟩
      refine (forall_timers_iff hon'.phase _).mpr ⟨hnext, fun d hd => ?_⟩
      refine lt_of_le_of_ne (hahead'.pong d hd) ?_
      rintro rfl
      exact hlate hd

/-- Something arrives, and is taken if the connection is still open. -/
theorem Meets.arrive (h : Meets settings opened (now + 1) s traffic events missed)
    (hle : opened ≤ now) (hhealthy : 0 < settings.healthyPingIntervalMs.toNat)
    {e : SocketEvent T} (he : e.isTraffic = true) :
    ∃ events missed, Meets settings opened (now + 1) s (traffic ++ [(now, e)]) events missed := by
  rcases h.alive with ⟨hdead, hpast⟩ | ⟨rfl, c, hon, hpaced⟩
  · refine ⟨events, missed ++ [(now, e)], h.session, ?_, ?_, .inl ⟨hdead, hpast⟩⟩
    · rw [← List.append_assoc, h.met]
    · intro event hevent
      rcases List.mem_append.mp hevent with hmem | hmem
      · exact h.late event hmem
      · rw [List.mem_singleton.mp hmem]
        exact Nat.le_of_lt_succ hpast
  · have hahead := h.session.ahead hon.phase
    have hfits : (s.run events).1.Fits now e :=
      (fits_iff hon.phase _ _).mpr ⟨hahead.mono (Nat.le_succ now), .inl he⟩
    have hmet : (events ++ [(now, e)]).filter (·.2.isTraffic) ++ [] = traffic ++ [(now, e)] := by
      rw [List.append_nil, List.filter_append, ← h.met, List.append_nil, List.filter_singleton, he]
      rfl
    obtain ⟨c', hon', hpaced', hlater⟩ : ∃ c', (s.run (events ++ [(now, e)])).1.On settings c' ∧
        c'.Paced settings opened ∧ c'.Ahead (now + 1) := by
      rw [run_snoc]
      cases (hon.beat hfits).1 with
      | quiet on => exact ⟨c, on, hpaced, hahead⟩
      | pong isPong silent =>
        subst isPong
        exact ⟨_, (hon.of_pong silent now).1, ⟨hhealthy, nofun⟩,
          ⟨Nat.add_le_add_left hhealthy now, nofun⟩⟩
      | ping isPing | overdue isOverdue =>
        subst e
        cases he
    exact ⟨events ++ [(now, e)], [], ⟨h.session.toTimely.snoc hle hfits, fun _ =>
      (forall_timers_iff hon'.phase _).mpr hlater⟩, hmet, nofun, .inr ⟨rfl, c', hon', hpaced'⟩⟩

theorem Meets.wait (h : Meets settings opened now s traffic events missed) (hle : opened ≤ now)
    {upTo : Nat} (hlater : now ≤ upTo) :
    ∃ events, Meets settings opened upTo s traffic events missed := by
  induction upTo, hlater using Nat.le_induction with
  | base => exact ⟨events, h⟩
  | succ moment hmoment ih =>
    obtain ⟨events, hmeets⟩ := ih
    exact hmeets.tick (hle.trans hmoment)

/-- Whatever traffic comes, there is a session that meets it. -/
theorem On.meets (h : s.On settings (.fresh settings opened))
    (hping : 0 < settings.pingIntervalMs.toNat)
    (hhealthy : 0 < settings.healthyPingIntervalMs.toNat)
    (ordered : (opened :: traffic.map Prod.fst).Pairwise (· ≤ ·))
    (all : ∀ e ∈ traffic, e.2.isTraffic = true) {upTo : Nat} (hle : opened ≤ upTo)
    (past : ∀ e ∈ traffic, e.1 < upTo) :
    ∃ events missed, Meets settings opened upTo s traffic events missed := by
  induction traffic using List.reverseRecOn generalizing upTo with
  | nil =>
    have hstart : Meets settings opened opened s [] [] [] :=
      ⟨⟨⟨List.pairwise_singleton _ _, trivial, nofun⟩, fun _ =>
          (forall_timers_iff h.phase opened).mpr (Connection.ahead_fresh settings opened)⟩,
        rfl, nofun, .inr ⟨rfl, _, h, Connection.paced_fresh opened hping⟩⟩
    obtain ⟨events, hmeets⟩ := hstart.wait le_rfl hle
    exact ⟨events, [], hmeets⟩
  | append_singleton traffic event ih =>
    obtain ⟨now, e⟩ := event
    rw [List.map_append, ← List.cons_append, List.pairwise_append] at ordered
    obtain ⟨hbefore, -, hlast⟩ := ordered
    have hnow : opened ≤ now := hlast opened List.mem_cons_self now (List.mem_singleton_self _)
    have hearlier : ∀ e ∈ traffic, e.1 < now + 1 := by
      intro e he
      exact Nat.lt_succ_of_le (hlast e.1 (List.mem_cons_of_mem _ (List.mem_map_of_mem he)) now
        (List.mem_singleton_self _))
    obtain ⟨events, missed, hmeets⟩ := ih hbefore (fun e he => all e (List.mem_append_left _ he))
      (hnow.trans (Nat.le_succ now)) hearlier
    obtain ⟨events, missed, harrived⟩ :=
      hmeets.arrive hnow hhealthy (all (now, e) (by simp))
    obtain ⟨events, hwaited⟩ :=
      harrived.wait (hnow.trans (Nat.le_succ now)) (past (now, e) (by simp))
    exact ⟨events, missed, hwaited⟩

end Existence

end Socket

end TopicClient
