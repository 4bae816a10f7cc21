import TopicClient.Proofs.Sessions

/-!
# Keeping a connection alive

A fresh connection pings at once and then at its interval. The first pong sets the pace anew,
slower, from that moment on, and lifts the deadline; without a pong the deadline ends the
connection.
-/

namespace TopicClient.Socket
variable {T : Type}

/-- What a session comes to whose first pong arrives at the moment `since`. -/
structure Answered (settings : SocketSettings) (opened since upTo : Nat) (s : Socket T)
    (before after : List (Nat × SocketEvent T)) : Prop where
  pings : ∃ m n,
    (∀ k, k < m ↔ opened + k * settings.pingIntervalMs.toNat < since) ∧
    (∀ k, k < n ↔ since + (k + 1) * settings.healthyPingIntervalMs.toNat < upTo) ∧
    s.pings (before ++ (since, .payload true) :: after) =
      (List.range m).map
          (fun k => (opened + k * settings.pingIntervalMs.toNat, .ofNat (k + 1))) ++
        (List.range n).map
          (fun k => (since + (k + 1) * settings.healthyPingIntervalMs.toNat, .ofNat (m + k + 1)))
  silent : ∀ first, first <+: before → (s.run first).1.state = .openUnhealthy
  healthy : ∀ later, later <+: after →
    (s.run (before ++ (since, .payload true) :: later)).1.state = .healthy
  told : ∃ status, told (s.run (before ++ (since, .payload true) :: after)).2 = [status] ∧
    status.connected = true
  kept : ∀ e ∈ before ++ after, e.2 ≠ .pongOverdue

/-- What a session comes to in which no pong arrives. A ping that is due at the very moment of
the deadline may still go out before the connection is given up. -/
structure TimedOut (settings : SocketSettings) (opened : Nat) (s : Socket T)
    (before : List (Nat × SocketEvent T)) : Prop where
  pings : ∃ m,
    (∀ k, k < m ↔ k * settings.pingIntervalMs.toNat < settings.pongTimeoutMs.toNat) ∧
    let regular := (List.range m).map
      fun k => (opened + k * settings.pingIntervalMs.toNat, UInt64.ofNat (k + 1))
    let all := s.pings (before ++ [(opened + settings.pongTimeoutMs.toNat, .pongOverdue)])
    (all = regular ∨
      settings.pingIntervalMs.toNat ∣ settings.pongTimeoutMs.toNat ∧
        all = regular ++ [(opened + settings.pongTimeoutMs.toNat, .ofNat (m + 1))])
  silent : ∀ first, first <+: before → (s.run first).1.state = .openUnhealthy
  ended : let t := (s.run before).1.step (opened + settings.pongTimeoutMs.toNat) .pongOverdue
    (∃ d, t.1.phase = .waiting d) ∧ t.1.state = .connecting ∧
      t.1.status.lastEvent?.map StatusEvent.name = some "pongTimeout"
  told : ∃ status,
    told (s.run (before ++ [(opened + settings.pongTimeoutMs.toNat, .pongOverdue)])).2 = [status] ∧
      status.connected = false

/-! ## Counting moments -/

/-- A count of moments is known by the last one that has passed and the first one to come. -/
theorem lt_count_iff {first interval count moment : Nat}
    (passed : ∀ k < count, first + k * interval < moment)
    (next : moment ≤ first + count * interval) (k : Nat) :
    k < count ↔ first + k * interval < moment := by
  constructor
  · exact passed k
  · intro hk
    exact Nat.lt_of_mul_lt_mul_right (Nat.lt_of_add_lt_add_left (hk.trans_le next))

/-- Where moments have passed by the last one, one of them may be the last one itself. -/
theorem count_cases {interval count last : Nat} (pos : 0 < interval)
    (passed : ∀ k < count, k * interval ≤ last) (next : last ≤ count * interval) :
    ∃ m, (∀ k, k < m ↔ k * interval < last) ∧
      (count = m ∨ count = m + 1 ∧ m * interval = last) := by
  rcases Nat.eq_zero_or_pos count with rfl | hcount
  · refine ⟨0, ?_, .inl rfl⟩
    intro k
    omega
  · obtain ⟨m, rfl⟩ := Nat.exists_eq_add_one.mpr hcount
    rcases (passed m (Nat.lt_succ_self m)).eq_or_lt with heq | hlt
    · refine ⟨m, ?_, .inr ⟨rfl, heq⟩⟩
      intro k
      rw [← heq, Nat.mul_lt_mul_right pos]
    · refine ⟨m + 1, ?_, .inl rfl⟩
      intro k
      constructor
      · intro hk
        exact (Nat.mul_le_mul_right interval (Nat.le_of_lt_succ hk)).trans_lt hlt
      · intro hk
        exact Nat.lt_of_mul_lt_mul_right (hk.trans_le next)

/-! ## The two outcomes -/

section Outcomes
variable {settings : SocketSettings} {s : Socket T} {opened since upTo : Nat}
  {before after events : List (Nat × SocketEvent T)}

/-- Before anything else, neither a pong nor the deadline has come. -/
theorem quiet_before {now : Nat} {e : SocketEvent T}
    (fitting : s.Fitting (before ++ (now, e) :: after))
    (silent : ∀ e ∈ before, e.2 ≠ .payload true) :
    ∀ e ∈ before, e.2 ≠ .payload true ∧ e.2 ≠ .pongOverdue :=
  fun e he => ⟨silent e he, no_overdue_before fitting e he⟩

theorem On.run_quiet {c : Connection} (h : s.On settings c) (fitting : s.Fitting events)
    (quiet : ∀ e ∈ events, e.2 ≠ .payload true ∧ e.2 ≠ .pongOverdue) :
    ∃ n, (s.run events).1.On settings (c.later n) ∧
      s.pings events = (List.range n).map c.pingAt ∧ told (s.run events).2 = [] :=
  h.run fitting fun e he =>
    ⟨fun hpong => absurd hpong (quiet e he).1, fun hlate => absurd hlate (quiet e he).2⟩

theorem On.silent (hs : s.On settings (.fresh settings opened)) (fitting : s.Fitting before)
    (quiet : ∀ e ∈ before, e.2 ≠ .payload true ∧ e.2 ≠ .pongOverdue)
    {first : List (Nat × SocketEvent T)} (hfirst : first <+: before) :
    (s.run first).1.state = .openUnhealthy := by
  obtain ⟨rest, rfl⟩ := hfirst
  have hfitting := ((fitting_append first rest s).mp fitting).1
  obtain ⟨n, hon, -⟩ := hs.run_quiet hfitting fun e he => quiet e (List.mem_append_left rest he)
  exact hon.state

/-- The first pong splits a session into two parts, each of one pace. -/
theorem Session.answered (hs : s.On settings (.fresh settings opened))
    (h : Session opened upTo s (before ++ (since, .payload true) :: after))
    (first : ∀ e ∈ before, e.2 ≠ .payload true)
    (apart : ∀ k, since ≠ opened + k * settings.pingIntervalMs.toNat) :
    Answered settings opened since upTo s before after := by
  obtain ⟨hbefore, hfits, hafter⟩ := (fitting_append _ _ s).mp h.fitting
  have hquiet := quiet_before h.fitting first
  obtain ⟨m, hon, hpings, htold⟩ := hs.run_quiet hbefore hquiet
  have hahead := (hon.beat hfits).2
  obtain ⟨hpaced, hunpinged, status, hstatus, hconnected⟩ := hon.of_pong rfl since
  obtain ⟨n, hlast, hmore, hquietly⟩ :=
    hpaced.run hafter fun _ _ => ⟨fun _ => rfl, fun _ => rfl⟩
  refine ⟨⟨m, n, ?_, ?_, ?_⟩, ?_, ?_, ⟨status, ?_, hconnected⟩, ?_⟩
  · refine lt_count_iff (fun k hk => ?_) hahead.ping
    exact lt_of_le_of_ne (pings_at (p := (· ≤ since)) h.le_of_before hpings k hk)
      (Ne.symm (apart k))
  · intro k
    have hpast : ∀ e ∈ after, e.1 < upTo := fun e he => h.past e (by simp [he])
    have hnext := (h.ahead (by rw [run_through]; exact hlast.phase)).ping
    rw [lt_count_iff (pings_at (p := (· < upTo)) hpast hmore) hnext, add_mul, one_mul,
      add_comm (k * _), ← add_assoc]
    rfl
  · rw [pings_append, pings, hunpinged, hpings, hmore, List.map_nil, List.nil_append,
      Connection.pingAt_fresh, Connection.pingAt_answered]
  · exact fun first hfirst => hs.silent hbefore hquiet hfirst
  · rintro later ⟨rest, rfl⟩
    obtain ⟨k, hk, -⟩ := hpaced.run ((fitting_append later rest _).mp hafter).1 fun _ _ =>
      ⟨fun _ => rfl, fun _ => rfl⟩
    rw [run_through]
    exact hk.state
  · simp only [run_through, told_append, htold, hstatus, hquietly, List.nil_append,
      List.append_nil]
  · intro e he
    rcases List.mem_append.mp he with hmem | hmem
    · exact (hquiet e hmem).2
    · exact hpaced.no_overdue hafter rfl rfl e hmem

/-- A pong that would come after the deadline does not come. -/
theorem On.silent_of_late (hs : s.On settings (.fresh settings opened)) (fitting : s.Fitting events)
    (late : ∀ e ∈ events, e.2 = .payload true → opened + settings.pongTimeoutMs.toNat < e.1) :
    ∀ e ∈ events, e.2 ≠ .payload true := by
  induction events using List.reverseRecOn with
  | nil => nofun
  | append_singleton events event ih =>
    obtain ⟨hbefore, hfits⟩ := (fitting_snoc events event.1 event.2 s).mp fitting
    have hsilent := ih hbefore fun e he => late e (List.mem_append_left _ he)
    obtain ⟨n, hon, -⟩ := hs.run_quiet hbefore (quiet_before fitting hsilent)
    have hdeadline := (hon.beat hfits).2.pong _ rfl
    intro e he
    rcases List.mem_append.mp he with hmem | hmem
    · exact hsilent e hmem
    · rw [List.mem_singleton.mp hmem]
      intro hpong
      exact Nat.not_le.mpr (late event (by simp) hpong) hdeadline

/-- A session that lasts beyond its deadline without a pong does not last. -/
theorem Session.exists_overdue (hs : s.On settings (.fresh settings opened))
    (h : Session opened upTo s events) (silent : ∀ e ∈ events, e.2 ≠ .payload true)
    (late : opened + settings.pongTimeoutMs.toNat < upTo) :
    ∃ first, events = first ++ [(opened + settings.pongTimeoutMs.toNat, .pongOverdue)] := by
  have hoverdue : ∃ now, (now, .pongOverdue) ∈ events := by
    by_contra hnone
    obtain ⟨n, hon, -⟩ := hs.run_quiet h.fitting fun e he =>
      ⟨silent e he, fun hlate => hnone ⟨e.1, hlate ▸ he⟩⟩
    have hdeadline := (h.ahead hon.phase).pong _ rfl
    exact Nat.not_le.mpr late hdeadline
  obtain ⟨now, hmem⟩ := hoverdue
  obtain ⟨first, rest, rfl⟩ := List.append_of_mem hmem
  obtain rfl := last_of_overdue h.fitting
  obtain ⟨hfirst, hfits, -⟩ := (fitting_append _ _ s).mp h.fitting
  have hquiet := quiet_before h.fitting fun e he => silent e (List.mem_append_left _ he)
  obtain ⟨n, hon, -⟩ := hs.run_quiet hfirst hquiet
  have hdue : opened + settings.pongTimeoutMs.toNat = now :=
    Option.some.inj (hon.deadline_of_overdue hfits)
  exact ⟨first, by rw [hdue]⟩

theorem Session.timedOut (hs : s.On settings (.fresh settings opened))
    (hping : 0 < settings.pingIntervalMs.toNat)
    (h : Session opened upTo s
      (before ++ [(opened + settings.pongTimeoutMs.toNat, .pongOverdue)]))
    (silent : ∀ e ∈ before, e.2 ≠ .payload true) : TimedOut settings opened s before := by
  obtain ⟨hbefore, hfits⟩ := (fitting_snoc _ _ _ s).mp h.fitting
  have hquiet := quiet_before h.fitting silent
  obtain ⟨n, hon, hpings, htold⟩ := hs.run_quiet hbefore hquiet
  obtain ⟨hwaiting, hstate, hlast, hunpinged, status, hstatus, hlost⟩ :=
    hon.of_overdue (hon.deadline_of_overdue hfits)
  have hpassed :=
    pings_at (p := (· ≤ opened + settings.pongTimeoutMs.toNat)) h.le_of_before hpings
  have hnext := (hon.beat hfits).2.ping
  obtain ⟨m, hm, hcount⟩ := count_cases hping
    (fun k hk => Nat.le_of_add_le_add_left (hpassed k hk)) (Nat.le_of_add_le_add_left hnext)
  rw [Connection.pingAt_fresh] at hpings
  refine ⟨⟨m, hm, ?_⟩, fun first hfirst => hs.silent hbefore hquiet hfirst,
    ⟨hwaiting, hstate, hlast⟩, status, ?_, hlost⟩
  · rw [pings_append, pings_singleton, hunpinged, hpings, List.map_nil, List.append_nil]
    rcases hcount with rfl | ⟨rfl, hexact⟩
    · exact .inl rfl
    · refine .inr ⟨Dvd.intro_left m hexact, ?_⟩
      rw [List.range_succ, List.map_append, ← hexact]
      rfl
  · rw [run_snoc, told_append, htold, hstatus]
    rfl

end Outcomes

/-- The pings of an open connection. Whatever traffic comes, there is a session that meets it, all
but what would come after the end of the session. Every session whose first pong comes at no
moment of a ping pings at its interval before that and at the slower pace from then on, is healthy
from then on, says so once, and is not given up. A session without a pong in time pings at its
interval and is given up at the deadline, never healthy; if its interval divides the time to
answer, one more ping may go out at the deadline. The tokens count the pings. -/
theorem keepalive_schedule {settings : SocketSettings} {since : Nat}
    {before : List (Nat × SocketEvent T)} {d opened upTo : Nat}
    (dialing : ((start settings since).run before).1.phase = .dialing d)
    (hping : 0 < settings.pingIntervalMs) (hhealthy : 0 < settings.healthyPingIntervalMs)
    (hlater : opened ≤ upTo) :
    let s := (((start settings since).run before).1.step opened .dialed).1
    (∀ traffic, (opened :: traffic.map Prod.fst).Pairwise (· ≤ ·) →
      (∀ e ∈ traffic, e.2.isTraffic = true ∧ e.1 < upTo) →
      ∃ events missed, Session opened upTo s events ∧
        events.filter (·.2.isTraffic) ++ missed = traffic ∧
        ((s.run events).1.isConnected = true → missed = []) ∧
        ∀ e ∈ missed, opened + settings.pongTimeoutMs.toNat ≤ e.1) ∧
    ∀ events, Session opened upTo s events →
      (∀ first moment last, events = first ++ (moment, .payload true) :: last →
        (∀ e ∈ first, e.2 ≠ .payload true) →
        (∀ k, moment ≠ opened + k * settings.pingIntervalMs.toNat) →
        Answered settings opened moment upTo s first last) ∧
      ((∀ e ∈ events, e.2 = .payload true → opened + settings.pongTimeoutMs.toNat < e.1) →
        opened + settings.pongTimeoutMs.toNat < upTo →
        ∃ first, events = first ++ [(opened + settings.pongTimeoutMs.toNat, .pongOverdue)] ∧
          TimedOut settings opened s first) := by
  intro s
  have hs : s.On settings (.fresh settings opened) := on_opened dialing opened
  have hpos : 0 < settings.pingIntervalMs.toNat := UInt64.lt_iff_toNat_lt.mp hping
  refine ⟨?_, fun events h => ⟨?_, ?_⟩⟩
  · intro traffic hordered hall
    obtain ⟨events, missed, hmeets⟩ := hs.meets hpos (UInt64.lt_iff_toNat_lt.mp hhealthy) hordered
      (fun e he => (hall e he).1) hlater fun e he => (hall e he).2
    refine ⟨events, missed, hmeets.session, hmeets.met, fun hconnected => ?_, hmeets.late⟩
    rcases hmeets.alive with ⟨hdead, -⟩ | ⟨hmissed, -⟩
    · exact absurd hconnected hdead
    · exact hmissed
  · rintro first moment last rfl hfirst hapart
    exact h.answered hs hfirst hapart
  · intro hlate hlast
    have hsilent := hs.silent_of_late h.fitting hlate
    obtain ⟨first, rfl⟩ := h.exists_overdue hs hsilent hlast
    exact ⟨first, rfl, h.timedOut hs hpos fun e he => hsilent e (List.mem_append_left _ he)⟩

/-- A pong at 150 is followed by a ping at 450; without one, the connection that was opened at 10
is given up at 260. -/
theorem keepalive_schedule_both :
    let settings : SocketSettings :=
      { pingIntervalMs := 100, healthyPingIntervalMs := 300, pongTimeoutMs := 250 }
    let s : Socket Unit := (((start settings 0).run [(0, .attempt)]).1.step 10 .dialed).1
    Answered settings 10 150 500 s [(10, .pingDue none), (110, .pingDue none)]
        [(450, .pingDue none)] ∧
      TimedOut settings 10 s [(10, .pingDue none), (110, .pingDue none), (210, .pingDue none)] := by
  intro settings s
  obtain ⟨-, hall⟩ := @keepalive_schedule Unit settings 0 [(0, .attempt)] _ 10 500 rfl
    (by decide) (by decide) (by decide)
  have hanswered : Session 10 500 s
      ([(10, .pingDue none), (110, .pingDue none)] ++ (150, .payload true) ::
        [(450, .pingDue none)]) := by
    refine ⟨⟨by decide, ⟨?_, ?_, ?_, ?_, trivial⟩, by simp⟩, ?_⟩
    · exact ⟨rfl, by decide, .inr (.head _)⟩
    · exact ⟨rfl, by decide, .inr (.head _)⟩
    · exact ⟨rfl, by decide, .inl rfl⟩
    · exact ⟨rfl, by decide, .inr (.head _)⟩
    · decide
  have hsilent : Session 10 500 s
      ([(10, .pingDue none), (110, .pingDue none), (210, .pingDue none)] ++
        [(260, .pongOverdue)]) := by
    refine ⟨⟨by decide, ⟨?_, ?_, ?_, ?_, trivial⟩, by simp⟩, ?_⟩
    · exact ⟨rfl, by decide, .inr (.head _)⟩
    · exact ⟨rfl, by decide, .inr (.head _)⟩
    · exact ⟨rfl, by decide, .inr (.head _)⟩
    · exact ⟨rfl, by decide, .inr (.tail _ (.head _))⟩
    · decide
  have hapart : ∀ k, 150 ≠ 10 + k * settings.pingIntervalMs.toNat := by
    intro k
    change 150 ≠ 10 + k * 100
    omega
  constructor
  · exact (hall _ hanswered).1 _ _ _ rfl (by simp) hapart
  · obtain ⟨first, hfirst, htimedOut⟩ := (hall _ hsilent).2 (by simp) (by decide)
    rwa [List.append_inj_left' hfirst rfl]

/-- The pings need not be those at the multiples of the interval before the deadline. If the
interval divides the time to answer, one more may go out at the deadline itself; and a ping that
goes out late moves those after it. -/
theorem pings_out_of_step :
    let opened (settings : SocketSettings) : Socket Unit :=
      (((start settings 0).run [(0, .attempt)]).1.step 0 .dialed).1
    let exact := opened { pingIntervalMs := 100, pongTimeoutMs := 200 }
    let events := [(0, .pingDue none), (100, .pingDue none), (200, .pingDue none),
      (200, .pongOverdue)]
    let loose := opened { pingIntervalMs := 100, pongTimeoutMs := 250 }
    let late := [(0, .pingDue none), (120, .pingDue none), (200, .pingDue none),
      (220, .pingDue none)]
    Session 0 500 exact events ∧ (∀ e ∈ events, e.2 ≠ .payload true) ∧
      exact.pings events = [(0, 1), (100, 2), (200, 3)] ∧
      loose.pings late = [(0, 1), (120, 2), (220, 3)] := by
  intro opened exact events loose late
  refine ⟨⟨⟨by decide, ⟨?_, ?_, ?_, ?_, trivial⟩, by simp [events]⟩, ?_⟩, by simp [events], rfl, rfl⟩
  · exact ⟨rfl, by decide, .inr (.head _)⟩
  · exact ⟨rfl, by decide, .inr (.head _)⟩
  · exact ⟨rfl, by decide, .inr (.head _)⟩
  · exact ⟨rfl, by decide, .inr (.tail _ (.head _))⟩
  · decide

end TopicClient.Socket
