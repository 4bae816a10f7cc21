import TopicClient.Proofs.QuietSteps

/-!
# What carries a topic

While the socket is the current transport, a topic is carried by the last subscribe
message that the socket was handed; while polling is, by a poll, by the end of a
retry delay, or by nothing if the server has refused it. The ledger of a run
remembers what a client does not. Quiet steps and steps of the socket keep every
topic with its carrier.
-/

namespace TopicClient

/-- A subscribe message that the socket was handed: the topics that it lists, and
whether the socket took it. -/
structure Handing where
  topics : List String
  taken : Bool

/-- What is to be remembered of a run: the last subscribe message that the socket was
handed since it became the current transport, the topics whose last poll ended with
a client error and that have not been armed since, and whether the socket has been
cancelled. -/
structure Ledger where
  handed : Option Handing := none
  refused : List String := []
  cancelled : Bool := false

def ClientEvent.isCancel {H : Type} : ClientEvent H → Bool
  | .socket .cancel => true
  | _ => false

namespace Client
variable {H W : Type}

/-- The subscribe message that an event hands to the socket as the current transport. -/
def hands? (c : Client H W) : ClientEvent H → Option Handing
  | .pump =>
    match c.core.outbox with
    | [] => none
    | m :: _ =>
      if c.isClosed = false ∧ c.supervisor.current = .socket ∧ m.kind = .subscribe then
        some ⟨m.listed, c.socket.any fun s => s.refusal?.isNone⟩
      else none
  | _ => none

/-- The topic whose poll an event ends with a client error. -/
def refuses? (c : Client H W) : ClientEvent H → Option String
  | .outcome key (.error e) =>
    if e.isClientError then (Assoc.find? key c.posts).bind Purpose.topic? else none
  | _ => none

/-- The topics that have been armed between two moments and are polled still. -/
def armedSince (c d : Client H W) : List String :=
  polledBy (d.posts.filter fun e => c.lastPost < e.1)

end Client

namespace Ledger
variable {H W : Type}

/-- The ledger after an event that takes a client from `c` to `d`. -/
def after (c : Client H W) (e : ClientEvent H) (d : Client H W) (l : Ledger) : Ledger where
  handed :=
    if c.supervisor.current = .polling ∧ d.supervisor.current = .socket then none
    else c.hands? e <|> l.handed
  refused := (l.refused ++ (c.refuses? e).toList).filter fun t => t ∉ c.armedSince d
  cancelled := l.cancelled || e.isCancel

/-- The ledger of a run. -/
def along (b : Behaviour H W) (c : Client H W) (l : Ledger) :
    List (Nat × ClientEvent H) → Ledger
  | [] => l
  | (now, e) :: rest =>
    let d := (c.step b now e).1
    along b d (l.after c e d) rest

end Ledger

namespace Client
variable {H W : Type}

/-- What carries a topic, given the ledger. -/
def Carries (l : Ledger) (c : Client H W) (topic : String) : Prop :=
  match c.supervisor.current with
  | .socket => ∃ h, l.handed = some h ∧ topic ∈ h.topics
  | .polling => topic ∈ c.polled ∨ c.retries ≠ [] ∨ topic ∈ l.refused

/-- The parts of a client agree: the supervisor knows the topics under way and whether
there is a socket, and polling is stopped exactly while the socket is current. -/
structure Sound (c : Client H W) : Prop where
  paired : c.Paired
  hasSocket : c.supervisor.hasSocket = c.socket.isSome
  onSocket : c.supervisor.onSocket = true → c.supervisor.hasSocket = true
  stopped : c.supervisor.polling.stopped = c.supervisor.onSocket

/-- Whether there will be a healthy connection, for all that the client has been told. -/
def believes (c : Client H W) : Bool :=
  (c.statuses.getLast?.map ConnectionStatus.connected).getD c.supervisor.onSocket

/-- The socket takes what it is handed, unless it has been cancelled or its loss of the
connection is yet to be looked at. -/
structure Linked (c : Client H W) (l : Ledger) : Prop where
  taken : c.supervisor.onSocket = true → ∀ h, l.handed = some h →
    h.taken = true ∨ l.cancelled = true ∨ ∃ s ∈ c.statuses, s.connected = false
  connected : l.cancelled = true ∨
    ∀ s, c.socket = some s → c.believes = true → s.isConnected = true

structure Alive (c : Client H W) (l : Ledger) : Prop where
  sound : c.Sound
  linked : c.Linked l
  owes : c.core.Owes (c.Carries l)

/-- The invariant of a run. -/
structure Inv (c : Client H W) (l : Ledger) : Prop where
  numbered : c.Numbered
  alive : c.isClosed = false → c.Alive l

theorem carries_socket {c : Client H W} (h : c.supervisor.onSocket = true) (l : Ledger)
    (topic : String) : c.Carries l topic ↔ ∃ h, l.handed = some h ∧ topic ∈ h.topics := by
  simp [Carries, Supervisor.current, h]

theorem carries_polling {c : Client H W} (h : c.supervisor.onSocket = false) (l : Ledger)
    (topic : String) :
    c.Carries l topic ↔ topic ∈ c.polled ∨ c.retries ≠ [] ∨ topic ∈ l.refused := by
  simp [Carries, Supervisor.current, h]

theorem Sound.congr {c d : Client H W} (h : c.Sound) (hpolled : d.polled = c.polled)
    (hsupervisor : d.supervisor = c.supervisor) (hsocket : d.socket.isSome = c.socket.isSome) :
    d.Sound := by
  refine ⟨⟨?_, ?_⟩, ?_, ?_, ?_⟩
  · rw [hpolled, hsupervisor]
    exact h.paired.inFlight
  · rw [hpolled]
    exact h.paired.once
  · rw [hsupervisor, hsocket]
    exact h.hasSocket
  · rw [hsupervisor]
    exact h.onSocket
  · rw [hsupervisor]
    exact h.stopped

theorem Linked.congr {c d : Client H W} {l : Ledger} (h : c.Linked l)
    (hsupervisor : d.supervisor = c.supervisor) (hsocket : d.socket = c.socket)
    (hstatuses : d.statuses = c.statuses) : d.Linked l := by
  constructor
  · rw [hsupervisor, hstatuses]
    exact h.taken
  · rw [hsocket, believes, hstatuses, hsupervisor]
    exact h.connected

/-- What a topic is carried by does not change with the parts that carry nothing. -/
theorem carries_congr {c d : Client H W} {l k : Ledger}
    (honSocket : d.supervisor.onSocket = c.supervisor.onSocket)
    (hhanded : k.handed = l.handed) (hretries : c.retries ≠ [] → d.retries ≠ []) {topic : String}
    (hpolled : topic ∈ c.polled → topic ∈ d.polled ∨ topic ∈ k.refused)
    (hrefused : topic ∈ l.refused → topic ∈ d.polled ∨ topic ∈ k.refused)
    (h : c.Carries l topic) : d.Carries k topic := by
  cases hc : c.supervisor.onSocket with
  | true =>
    rw [carries_socket hc] at h
    rwa [carries_socket (honSocket.trans hc), hhanded]
  | false =>
    rw [carries_polling hc] at h
    rw [carries_polling (honSocket.trans hc)]
    rcases h with h | h | h
    · rcases hpolled h with h | h
      · exact .inl h
      · exact .inr (.inr h)
    · exact .inr (.inl (hretries h))
    · rcases hrefused h with h | h
      · exact .inl h
      · exact .inr (.inr h)

/-! ## Quiet steps and steps of the socket -/

theorem Sound.quiet {c d : Client H W} (h : c.Sound) (hq : c.Quiet d)
    (hd : d.isClosed = false) : d.Sound :=
  h.congr hq.polled (hq.supervisor hd) (by rw [hq.socket])

theorem Linked.quiet {c d : Client H W} {l : Ledger} (h : c.Linked l) (hq : c.Quiet d)
    (hd : d.isClosed = false) : d.Linked l :=
  h.congr (hq.supervisor hd) hq.socket hq.statuses

theorem Alive.quiet {c d : Client H W} {l : Ledger} (h : c.Alive l) (hq : c.Quiet d)
    (hd : d.isClosed = false) : d.Alive l := by
  refine ⟨h.sound.quiet hq hd, h.linked.quiet hq hd, ?_⟩
  refine (Core.owes_moves hq.moves h.owes).mono ?_
  intro topic _
  refine carries_congr (by rw [hq.supervisor hd]) rfl (by rw [hq.retries hd]; exact id) ?_ .inr
  rw [hq.polled]
  exact .inl

theorem Inv.quiet {c d : Client H W} {l : Ledger} (h : c.Inv l) (hq : c.Quiet d) : d.Inv l :=
  ⟨hq.numbered, fun hd => (h.alive (hq.isClosed hd)).quiet hq hd⟩

/-- A step of the socket reports the loss of a connection. -/
theorem Linked.stepped {c : Client H W} {l : Ledger} (h : c.Linked l) (now : Nat)
    {e : SocketEvent Tag} (he : e = .cancel → l.cancelled = true) :
    (c.stepped now e).Linked l := by
  rw [Client.stepped]
  cases hsocket : c.socket with
  | none => exact h
  | some s =>
    constructor
    · intro hon handing hhanded
      rcases h.taken hon handing hhanded with htaken | hcancelled | ⟨status, hmem, hlost⟩
      · exact .inl htaken
      · exact .inr (.inl hcancelled)
      · exact .inr (.inr ⟨status, List.mem_append_left _ hmem, hlost⟩)
    · by_cases hcancel : e = .cancel
      · exact .inl (he hcancel)
      · refine h.connected.imp id ?_
        rintro hconnected t ⟨rfl⟩ hbelieves
        have honest := Socket.honest_step s now hcancel
        simp only [Socket.Honest] at honest
        simp only [believes, List.getLast?_append] at hbelieves
        cases htold : (Socket.told (s.step now e).2).getLast? with
        | none =>
          rw [htold] at honest hbelieves
          exact honest (hconnected s hsocket (by simpa [believes] using hbelieves))
        | some status =>
          rw [htold] at honest hbelieves
          exact honest (by simpa using hbelieves)

theorem Alive.stepped {c : Client H W} {l : Ledger} (h : c.Alive l) (now : Nat)
    {e : SocketEvent Tag} (he : e = .cancel → l.cancelled = true) :
    (c.stepped now e).Alive l := by
  have hlinked := h.linked.stepped now he
  rw [Client.stepped] at hlinked ⊢
  cases hsocket : c.socket with
  | none => exact h
  | some s =>
    rw [hsocket] at hlinked
    exact ⟨h.sound.congr rfl rfl (by rw [hsocket]; rfl), hlinked, h.owes⟩

/-- From `c` to `d` the client has gone quietly and its socket has taken steps. -/
structure Keeps (cancelling : Bool) (c d : Client H W) : Prop where
  inv : ∀ l : Ledger, (cancelling = true → l.cancelled = true) → c.Inv l → d.Inv l
  supervisor : d.isClosed = false → c.isClosed = false ∧ d.supervisor = c.supervisor

theorem Quiet.keeps {c d : Client H W} (h : c.Quiet d) (cancelling : Bool) :
    Keeps cancelling c d :=
  ⟨fun _ _ hinv => hinv.quiet h, fun hd => ⟨h.isClosed hd, h.supervisor hd⟩⟩

theorem Keeps.trans {cancelling : Bool} {c d e : Client H W} (hcd : Keeps cancelling c d)
    (hde : Keeps cancelling d e) : Keeps cancelling c e where
  inv l hl hinv := hde.inv l hl (hcd.inv l hl hinv)
  supervisor he := by
    obtain ⟨hd, hsupervisor⟩ := hde.supervisor he
    obtain ⟨hc, hsupervisor'⟩ := hcd.supervisor hd
    exact ⟨hc, hsupervisor.trans hsupervisor'⟩

theorem numbered_stepped {c : Client H W} (hc : c.Numbered) (now : Nat)
    (e : SocketEvent Tag) : (c.stepped now e).Numbered := by
  rw [Client.stepped]
  cases c.socket with
  | none => exact hc
  | some s => exact hc.congr rfl rfl rfl

theorem isClosed_stepped (now : Nat) (e : SocketEvent Tag) (c : Client H W) :
    (c.stepped now e).isClosed = c.isClosed := by
  rw [Client.stepped]
  cases c.socket <;> rfl

theorem supervisor_stepped (now : Nat) (e : SocketEvent Tag) (c : Client H W) :
    (c.stepped now e).supervisor = c.supervisor := by
  rw [Client.stepped]
  cases c.socket <;> rfl

theorem keeps_onSocket {cancelling : Bool} {c : Client H W} (hc : c.Numbered) (now : Nat)
    {e : SocketEvent Tag} (he : e = .cancel → cancelling = true) :
    Keeps cancelling c (c.onSocket now e).1 := by
  have hstepped : Keeps cancelling c (c.stepped now e) := by
    refine ⟨fun l hl hinv => ⟨numbered_stepped hc now e, ?_⟩, ?_⟩
    · intro hd
      rw [isClosed_stepped] at hd
      exact (hinv.alive hd).stepped now fun heq => hl (he heq)
    · intro hd
      rw [isClosed_stepped] at hd
      exact ⟨hd, supervisor_stepped now e c⟩
  exact hstepped.trans ((quiet_onSocket hc now e).keeps _)

theorem keeps_transmit {c : Client H W} (hc : c.Numbered) (now number : Nat) (m : Message) :
    Keeps false c (c.transmit now number m).1 := by
  rw [transmit]
  cases c.supervisor.active with
  | socket => exact keeps_onSocket hc now nofun
  | polling =>
    refine (quiet_post hc _ ?_ rfl m).keeps false
    intro e he key hkey
    rcases mem_modify he with hmem | ⟨call, -, rfl⟩
    · exact .inr ⟨e, hmem, hkey⟩
    · exact .inl (Option.some.inj hkey).symm

theorem keeps_request {c : Client H W} (hc : c.Numbered) (now : Nat) (uri : String)
    (payload : Json) (reported : Bool) :
    Keeps false c (c.request now uri payload reported).1 := by
  rw [request]
  by_cases hclosed : c.isClosed = true
  · simp only [if_pos hclosed]
    have hbegin := quiet_begin hc
      { id := none, reportedAs := if reported then some uri else none } rfl
    exact (hbegin.trans (quiet_finish hbegin.numbered _ _)).keeps false
  · simp only [if_neg hclosed]
    have hcorrelator := quiet_withCorrelator hc fun _ =>
      (c.core.correlator.request uri payload).2.2
    have hbegin := hcorrelator.trans (quiet_begin hcorrelator.numbered
      { id := some (c.core.correlator.request uri payload).2.1
        deadline := c.settings.requestTimeout?.map (now + ·)
        reportedAs := if reported then some uri else none } rfl)
    exact (hbegin.keeps false).trans (keeps_transmit hbegin.numbered now _ _)

theorem keeps_describe {c : Client H W} (hc : c.Numbered) (now : Nat) (metadata : Metadata) :
    Keeps false c (c.describe now metadata).1 := by
  have hbegin := quiet_begin hc { id := none } rfl
  rw [describe]
  by_cases hclosed : c.isClosed = true
  · simp only [if_pos hclosed]
    exact (hbegin.trans (quiet_finish hbegin.numbered _ _)).keeps false
  · simp only [if_neg hclosed]
    exact (hbegin.keeps false).trans (keeps_transmit hbegin.numbered now _ _)

theorem keeps_payload {b : Behaviour H W} (hb : b.Proper) {c : Client H W} (hc : c.Numbered)
    (now : Nat) (text : String) : Keeps false c (c.payload b now text).1 := by
  rw [payload]
  split
  · have habsorb := quiet_absorb hc (Core.moves_onPayload hb now text c.core)
    exact (habsorb.keeps false).trans (keeps_onSocket habsorb.numbered now nofun)
  · exact (Quiet.refl hc).keeps false

/-! ## The ledger -/

/-- Who leaves the list of refused topics has been armed. -/
theorem mem_refused_after {c d : Client H W} {e : ClientEvent H} {l : Ledger} {topic : String}
    (h : topic ∈ l.refused ++ (c.refuses? e).toList) :
    topic ∈ d.polled ∨ topic ∈ (l.after c e d).refused := by
  by_cases harmed : topic ∈ c.armedSince d
  · left
    rw [polled_eq]
    exact (List.filter_sublist.filterMap _).subset harmed
  · right
    exact List.mem_filter.mpr ⟨h, by simpa using harmed⟩

theorem handed_after {c d : Client H W} {e : ClientEvent H} {l : Ledger}
    (h : d.supervisor.onSocket = true → c.supervisor.onSocket = true) :
    (l.after c e d).handed = (c.hands? e <|> l.handed) := by
  refine if_neg ?_
  rintro ⟨hc, hd⟩
  have hon : d.supervisor.onSocket = true := by
    by_contra hoff
    simp [Supervisor.current, hoff] at hd
  simp [Supervisor.current, h hon] at hc

/-- The handings of an earlier time on the socket are forgotten. -/
theorem handed_switched {c d : Client H W} (e : ClientEvent H) (l : Ledger)
    (hc : c.supervisor.onSocket = false) (hd : d.supervisor.onSocket = true) :
    (l.after c e d).handed = none :=
  if_pos ⟨by simp [Supervisor.current, hc], by simp [Supervisor.current, hd]⟩

theorem Alive.withLedger {c : Client H W} {l k : Ledger} (h : c.Alive l)
    (hhanded : k.handed = l.handed)
    (hrefused : ∀ topic ∈ l.refused, topic ∈ c.polled ∨ topic ∈ k.refused)
    (hcancelled : l.cancelled = true → k.cancelled = true) : c.Alive k := by
  refine ⟨h.sound, ⟨?_, h.linked.connected.imp_left hcancelled⟩, ?_⟩
  · intro hon handing hsome
    refine (h.linked.taken hon handing (hhanded ▸ hsome)).imp_right ?_
    exact Or.imp_left hcancelled
  · exact h.owes.mono fun topic _ => carries_congr rfl hhanded id .inl (hrefused topic)

/-- The ledger of an event, from what the event has handed over and refused. -/
theorem Inv.settle {c d : Client H W} {e : ClientEvent H} {l k : Ledger} (h : d.Inv k)
    (hon : d.isClosed = false → d.supervisor.onSocket = true → c.supervisor.onSocket = true)
    (hhanded : k.handed = (c.hands? e <|> l.handed))
    (hrefused : ∀ topic ∈ k.refused, topic ∈ l.refused ++ (c.refuses? e).toList)
    (hcancelled : k.cancelled = (l.cancelled || e.isCancel)) : d.Inv (l.after c e d) := by
  refine ⟨h.numbered, fun hopen => (h.alive hopen).withLedger ?_ ?_ ?_⟩
  · rw [handed_after (hon hopen), hhanded]
  · exact fun topic hmem => mem_refused_after (hrefused topic hmem)
  · exact fun hk => hcancelled.symm.trans hk

/-- An event that hands nothing over and cancels nothing. -/
theorem Inv.settle_idle {c d : Client H W} {e : ClientEvent H} {l : Ledger} (h : d.Inv l)
    (hon : d.isClosed = false → d.supervisor.onSocket = true → c.supervisor.onSocket = true)
    (hhands : c.hands? e = none) (hcancel : e.isCancel = false) : d.Inv (l.after c e d) := by
  refine h.settle hon ?_ (fun topic hmem => List.mem_append_left _ hmem) ?_
  · rw [hhands]
    rfl
  · rw [hcancel, Bool.or_false]

/-- An event that goes quietly and hands nothing over. -/
theorem Inv.after_keeps {c d : Client H W} {e : ClientEvent H} {l : Ledger} (h : c.Inv l)
    (hk : Keeps e.isCancel c d) (hhands : c.hands? e = none) : d.Inv (l.after c e d) := by
  have hcancelled : c.Inv { l with cancelled := l.cancelled || e.isCancel } :=
    ⟨h.numbered, fun hc => (h.alive hc).withLedger rfl (fun _ => .inr) fun hl => by simp [hl]⟩
  have hd := hk.inv _ (fun he => by simp [he]) hcancelled
  refine hd.settle ?_ ?_ ?_ rfl
  · intro hopen hon
    rwa [(hk.supervisor hopen).2] at hon
  · rw [hhands]
    rfl
  · exact fun topic hmem => List.mem_append_left _ hmem

end Client

end TopicClient
