import TopicClient.Proofs.SocketStates
import TopicClient.Proofs.SocketSteps

/-!
# What becomes of a frame

Frames leave the queue in the order in which they came: one at a time to be written, or all
together when the socket stops. At any moment the frames that came are those whose writing
was tried, over all connections, followed by those that were not, and the results told so
far are theirs in the same order.
-/

namespace TopicClient.Socket
variable {T : Type}

/-- The frames that the events bring, in order. -/
def offered (events : List (Nat × SocketEvent T)) : List (Frame T) :=
  events.filterMap fun
    | (_, .enqueue f) => some f
    | _ => none

/-- The write that an event is: the frame that it takes from the queue, and the fault of
that write. Frames are taken only while a connection is open. -/
def taken? (e : SocketEvent T) (s : Socket T) : Option (Frame T × Option String) :=
  match e, s.phase, s.queue with
  | .write fault, .connected _, f :: _ => some (f, fault)
  | _, _, _ => none

/-- The writes of a run, over all its connections. -/
def writes (s : Socket T) : List (Nat × SocketEvent T) → List (Frame T × Option String)
  | [] => []
  | (now, e) :: rest => (s.taken? e).toList ++ (s.step now e).1.writes rest

/-- The frames that reached the wire. -/
def wired (effects : List (SocketEffect T)) : List (Frame T) :=
  effects.filterMap fun
    | .wrote f => some f
    | _ => none

/-- The results that were told, each under the tag of its frame. -/
def results (effects : List (SocketEffect T)) : List (T × Option TransportError) :=
  effects.filterMap fun
    | .settled tag fault => some (tag, fault)
    | _ => none

/-- What the owner of a frame is told of its write. -/
def resultOf (w : Frame T × Option String) : T × Option TransportError :=
  (w.1.tag, w.2.map .write)

theorem wired_append (effects more : List (SocketEffect T)) :
    wired (effects ++ more) = wired effects ++ wired more :=
  List.filterMap_append

theorem results_append (effects more : List (SocketEffect T)) :
    results (effects ++ more) = results effects ++ results more :=
  List.filterMap_append

theorem offered_append (events more : List (Nat × SocketEvent T)) :
    offered (events ++ more) = offered events ++ offered more :=
  List.filterMap_append

/-! ## One event -/

/-- What an event does to frames: the frame that it brings, the write that it is, what
reaches the wire and the results that are told. -/
inductive Handling (s t : Socket T) : List (Frame T) → Option (Frame T × Option String) →
    List (Frame T) → List (T × Option TransportError) → Prop
  | stays (queue : t.queue = s.queue) (live : s.phase ≠ .stopped → t.phase ≠ .stopped)
      (same : s.phase = .stopped → t = s) : Handling s t [] none [] []
  | joins (f : Frame T) (live : s.phase ≠ .stopped)
      (next : t = { s with queue := s.queue ++ [f] }) : Handling s t [f] none [] []
  | bounces (f : Frame T) (stopped : s.phase = .stopped) (same : t = s) :
      Handling s t [f] none [] [(f.tag, some s.stopFault)]
  | written (f : Frame T) (queue : s.queue = f :: t.queue) (before : s.phase ≠ .stopped)
      (live : t.phase ≠ .stopped) : Handling s t [] (some (f, none)) [f] [(f.tag, none)]
  | failed (f : Frame T) (text : String) (queue : s.queue = f :: t.queue)
      (before : s.phase ≠ .stopped) (live : t.phase ≠ .stopped) :
      Handling s t [] (some (f, some text)) [] [(f.tag, some (.write text))]
  | stops (before : s.phase ≠ .stopped) (stopped : t.phase = .stopped) (queue : t.queue = []) :
      Handling s t [] none [] (s.queue.map fun f => (f.tag, some t.stopFault))

section Steps
variable {s : Socket T}

theorem wired_finish (final : SocketState) (s : Socket T) : wired (s.finish final).2 = [] := by
  simp [finish, wired]

theorem results_finish (final : SocketState) (s : Socket T) :
    results (s.finish final).2 =
      s.queue.map fun f => (f.tag, some (s.finish final).1.stopFault) := by
  simp [finish, results, stopFault]

/-- A step that has nothing to do with frames and does not stop the socket. -/
theorem handling_aside {t : Socket T} (live : s.phase ≠ .stopped) (hqueue : t.queue = s.queue)
    (hlive : t.phase ≠ .stopped) : Handling s t [] none [] [] :=
  .stays hqueue (fun _ => hlive) fun hstopped => absurd hstopped live

theorem handling_finish (live : s.phase ≠ .stopped) (t : Socket T) (hqueue : t.queue = s.queue)
    (final : SocketState) :
    Handling s (t.finish final).1 [] none (wired (t.finish final).2)
      (results (t.finish final).2) := by
  rw [wired_finish, results_finish, hqueue]
  exact .stops live rfl rfl

theorem handling_attempt (live : s.phase ≠ .stopped) (now : Nat) :
    Handling s (s.attempt now).1 [] none (wired (s.attempt now).2) (results (s.attempt now).2) := by
  simp only [attempt]
  split
  · exact handling_aside live rfl (by simp [dial])
  · exact handling_aside live rfl (by simp [dial])
  · refine handling_finish live _ ?_ .givenUp
    rfl

theorem handling_received {c : Connection} (hphase : s.phase = .connected c) (now : Nat)
    (isPong : Bool) :
    Handling s (s.received now isPong c).1 [] none (wired (s.received now isPong c).2)
      (results (s.received now isPong c).2) := by
  have live : s.phase ≠ .stopped := by rw [hphase]; simp
  rw [received]
  cases s.status.onMessage now isPong with
  | mk first status =>
    cases first with
    | true => exact handling_aside live rfl (by simp)
    | false => exact handling_aside live rfl live

/-- Only these two events bring a frame or take one. -/
theorem untouched (now : Nat) {e : SocketEvent T} (hqueued : ∀ f, e ≠ .enqueue f)
    (hwritten : ∀ fault, e ≠ .write fault) : offered [(now, e)] = [] ∧ s.taken? e = none := by
  cases e with
  | enqueue f => exact (hqueued f rfl).elim
  | write fault => exact (hwritten fault rfl).elim
  | _ => exact ⟨rfl, rfl⟩

theorem untouched_of_idle {now : Nat} {e : SocketEvent T} (h : Idle now s e) :
    offered [(now, e)] = [] ∧ s.taken? e = none := by
  cases h with
  | attempt | cancel => exact untouched now (by simp) (by simp)
  | other he => exact untouched now (by rintro f rfl; cases he) (by rintro fault rfl; cases he)
  | write fault nothing =>
    refine ⟨rfl, ?_⟩
    cases hphase : s.phase with
    | connected c =>
      have hempty : s.queue = [] := nothing.resolve_right fun hshut => hshut c hphase
      simp only [taken?, hphase, hempty]
    | _ => simp only [taken?, hphase]

theorem handling_course {now : Nat} {e : SocketEvent T} {r : Step T} (h : Course now s e r) :
    Handling s r.1 (offered [(now, e)]) (s.taken? e) (wired r.2) (results r.2) := by
  have hconnected {c : Connection} (h : s.phase = .connected c) : s.phase ≠ .stopped := by
    rw [h]
    simp
  cases h with
  | idle hidle =>
    obtain ⟨hoffered, htaken⟩ := untouched_of_idle hidle
    rw [hoffered, htaken]
    exact .stays rfl id fun _ => rfl
  | queued f live => exact .joins f live rfl
  | refused f stopped => exact .bounces f stopped rfl
  | begun due => exact handling_attempt (live_of_due due) now
  | opened dialing => exact handling_aside (by simp [dialing]) rfl (by simp [Socket.opened])
  | received connected isPong => exact handling_received connected now isPong
  | @written _ connected f _ queue =>
    have htaken : s.taken? (.write none) = some (f, none) := by
      simp only [taken?, connected, queue]
    rw [htaken]
    exact .written f queue (hconnected connected) (hconnected connected)
  | @failed _ connected f _ queue text =>
    have htaken : s.taken? (.write (some text)) = some (f, some text) := by
      simp only [taken?, connected, queue]
    rw [htaken]
    exact .failed f text queue (hconnected connected) (by simp [lost, retreat])
  | pinged connected => exact handling_aside (hconnected connected) rfl (by simp)
  | ended underWay he named detail said =>
    obtain ⟨hoffered, htaken⟩ := untouched (s := s) now (e := e) (by rintro f rfl; cases he)
      (by rintro fault rfl; cases he)
    rw [hoffered, htaken]
    rcases said with rfl | rfl
    · exact handling_aside (live_of_underWay underWay) rfl (by simp [lost, retreat])
    · exact handling_aside (live_of_underWay underWay) rfl (by simp [lost, retreat])
  | cancelled live said =>
    rcases said with rfl | rfl
    · refine handling_finish live _ ?_ .closed
      rfl
    · refine handling_finish live _ ?_ .closed
      rfl

/-- Everything that an event can do to frames. -/
theorem handling_step (s : Socket T) (now : Nat) (e : SocketEvent T) :
    Handling s (s.step now e).1 (offered [(now, e)]) (s.taken? e) (wired (s.step now e).2)
      (results (s.step now e).2) :=
  handling_course (course_step now e s)

end Steps

/-! ## Whole runs -/

/-- What has become of the frames that were offered: the writing of some was tried, and
`rest` has not been taken. -/
structure Books (s : Socket T) (offered rest : List (Frame T))
    (writes : List (Frame T × Option String)) (wired : List (Frame T))
    (results : List (T × Option TransportError)) : Prop where
  offered : offered = writes.map Prod.fst ++ rest
  wired : wired = (writes.filter (·.2.isNone)).map Prod.fst
  live : s.phase ≠ .stopped → s.queue = rest ∧ results = writes.map resultOf
  stopped : s.phase = .stopped → s.queue = [] ∧
    results = writes.map resultOf ++ rest.map fun f => (f.tag, some s.stopFault)

namespace Books
variable {s t : Socket T} {offered more rest : List (Frame T)}
  {writes : List (Frame T × Option String)} {wired : List (Frame T)}
  {results : List (T × Option TransportError)}

theorem start (live : s.phase ≠ .stopped) : Books s s.queue s.queue [] [] [] :=
  ⟨rfl, rfl, fun _ => ⟨rfl, rfl⟩, fun hstopped => absurd hstopped live⟩

/-- The books of a socket that has not stopped. -/
theorem of_live (live : s.phase ≠ .stopped) (hoffered : offered = writes.map Prod.fst ++ s.queue)
    (hwired : wired = (writes.filter (·.2.isNone)).map Prod.fst)
    (hresults : results = writes.map resultOf) : Books s offered s.queue writes wired results :=
  ⟨hoffered, hwired, fun _ => ⟨rfl, hresults⟩, fun hstopped => absurd hstopped live⟩

theorem step (h : Books s offered rest writes wired results)
    {taken : Option (Frame T × Option String)} {sent : List (Frame T)}
    {told : List (T × Option TransportError)} (hstep : Handling s t more taken sent told) :
    ∃ left, Books t (offered ++ more) left (writes ++ taken.toList) (wired ++ sent)
      (results ++ told) := by
  cases hstep with
  | stays queue live same =>
    by_cases hs : s.phase = .stopped
    · obtain rfl := same hs
      exact ⟨rest, by simpa using h⟩
    · obtain ⟨hqueue, hresults⟩ := h.live hs
      refine ⟨t.queue, of_live (live hs) ?_ ?_ ?_⟩
      · simpa [queue, hqueue] using h.offered
      · simpa using h.wired
      · simpa using hresults
  | joins f live next =>
    obtain ⟨hqueue, hresults⟩ := h.live live
    subst next
    refine ⟨_, of_live live ?_ ?_ ?_⟩
    · simp [h.offered, hqueue]
    · simpa using h.wired
    · simpa using hresults
  | bounces f stopped same =>
    subst same
    obtain ⟨hqueue, hresults⟩ := h.stopped stopped
    refine ⟨rest ++ [f], ?_, ?_, fun live => absurd stopped live, fun _ => ⟨hqueue, ?_⟩⟩
    · simp [h.offered]
    · simpa using h.wired
    · simp [hresults]
  | written f queue before live =>
    obtain ⟨hqueue, hresults⟩ := h.live before
    refine ⟨t.queue, of_live live ?_ ?_ ?_⟩
    · simp [h.offered, ← hqueue, queue]
    · simp [h.wired]
    · simp [hresults, resultOf]
  | failed f text queue before live =>
    obtain ⟨hqueue, hresults⟩ := h.live before
    refine ⟨t.queue, of_live live ?_ ?_ ?_⟩
    · simp [h.offered, ← hqueue, queue]
    · simp [h.wired]
    · simp [hresults, resultOf]
  | stops before stopped queue =>
    obtain ⟨hqueue, hresults⟩ := h.live before
    refine ⟨rest, ?_, ?_, fun live => absurd stopped live, fun _ => ⟨queue, ?_⟩⟩
    · simpa using h.offered
    · simpa using h.wired
    · simp [hresults, hqueue]

theorem run (events : List (Nat × SocketEvent T)) (h : Books s offered rest writes wired results) :
    ∃ left, Books (s.run events).1 (offered ++ Socket.offered events) left
      (writes ++ s.writes events) (wired ++ Socket.wired (s.run events).2)
      (results ++ Socket.results (s.run events).2) := by
  induction events generalizing s offered rest writes wired results with
  | nil =>
    refine ⟨rest, ?_⟩
    simpa [Socket.run, Socket.writes, Socket.offered, Socket.wired, Socket.results] using h
  | cons event events ih =>
    obtain ⟨now, e⟩ := event
    obtain ⟨left, hstep⟩ := h.step (handling_step s now e)
    obtain ⟨last, hrun⟩ := ih hstep
    refine ⟨last, ?_⟩
    have hoffered : Socket.offered ((now, e) :: events) =
        Socket.offered [(now, e)] ++ Socket.offered events :=
      offered_append [(now, e)] events
    simpa only [Socket.run, Socket.writes, hoffered, wired_append, results_append,
      List.append_assoc] using hrun

end Books

/-! ## The end -/

/-- Of four frames the first is written, the second one fails and ends the connection, the
third waits for the next connection and the last one is still there when the socket is
closed. -/
example :
    let frames : List (Frame Nat) := [⟨1, "a"⟩, ⟨2, "b"⟩, ⟨3, "c"⟩, ⟨4, "d"⟩]
    let events := frames.map (fun f => (0, .enqueue f)) ++
      [(0, .attempt), (1, .dialed), (1, .write none), (1, .write (some "reset")),
       (100000, .attempt), (100001, .dialed), (100001, .write none), (100002, .cancel)]
    results ((start {} 0).run events).2 =
      [(1, none), (2, some (.write "reset")), (3, none), (4, some .closed)] := by
  decide +kernel

end TopicClient.Socket
