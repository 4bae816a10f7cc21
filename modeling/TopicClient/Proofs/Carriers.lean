import TopicClient.Proofs.Ledger
import TopicClient.Proofs.Supervision
import TopicClient.Scenario.Listener

/-!
# Every topic has a carrier

No subscribed topic is left alone. What goes out of the outbox, a switch of the
transport and the end of a poll move a topic from one carrier to another. Between
them it is at most owed, by an announcement that has not gone out yet.
-/

namespace TopicClient

namespace Client
variable {H W : Type}

/-! ## The outbox -/

/-- A client whose outbox has been emptied up to `rest`. -/
def withOutbox (rest : List Message) (c : Client H W) : Client H W :=
  { c with core := { c.core with outbox := rest } }

theorem Numbered.withOutbox {c : Client H W} (hc : c.Numbered) (rest : List Message) :
    (c.withOutbox rest).Numbered :=
  hc.congr rfl rfl rfl

theorem Sound.withOutbox {c : Client H W} (h : c.Sound) (rest : List Message) :
    (c.withOutbox rest).Sound :=
  h.congr rfl rfl rfl

/-- The current socket takes frames, unless it has been cancelled or is known to be lost. -/
theorem Linked.takes {c : Client H W} {l : Ledger} (h : c.Linked l) (hs : c.Sound)
    (hon : c.supervisor.onSocket = true) :
    (c.socket.any fun s => s.refusal?.isNone) = true ∨ l.cancelled = true ∨
      ∃ s ∈ c.statuses, s.connected = false := by
  rcases h.connected with hcancelled | hconnected
  · exact .inr (.inl hcancelled)
  · by_cases hlost : ∃ s ∈ c.statuses, s.connected = false
    · exact .inr (.inr hlost)
    · left
      have hbelieves : c.believes = true := by
        rw [believes]
        cases hlast : c.statuses.getLast? with
        | none => exact hon
        | some status =>
          by_contra hne
          exact hlost ⟨status, List.mem_of_getLast? hlast, by simpa using hne⟩
      obtain ⟨s, hsocket⟩ := Option.isSome_iff_exists.mp (hs.hasSocket.symm.trans (hs.onSocket hon))
      obtain ⟨_, hphase⟩ := s.isConnected_iff.mp (hconnected s hsocket hbelieves)
      simp [hsocket, Socket.refusal?, hphase]

/-- What has been listed by the first announcement is owed no more if it goes out. -/
theorem owes_withOutbox {c : Client H W} {m : Message} {rest : List Message}
    (hout : c.core.outbox = m :: rest) {p q : String → Prop} (h : c.core.Owes p)
    (hsent : m.kind = .subscribe → ∀ topic ∈ m.listed, q topic)
    (hkept : m.kind ≠ .subscribe → ∀ topic, p topic → q topic) :
    (c.withOutbox rest).core.Owes q := by
  intro topic hmem
  have howes := h topic hmem
  rw [hout, Message.announced_cons] at howes
  change (Message.announced rest).elim (q topic) fun names => topic ∈ names
  cases hrest : Message.announced rest with
  | some names =>
    rw [hrest] at howes
    exact howes
  | none =>
    rw [hrest] at howes
    by_cases hkind : m.kind = .subscribe
    · rw [Message.announced_subscribe hkind] at howes
      exact hsent hkind topic howes
    · rw [Message.announced_other hkind] at howes
      exact hkept hkind topic howes

theorem hands?_pump {c : Client H W} {m : Message} {rest : List Message}
    (hout : c.core.outbox = m :: rest) (hopen : c.isClosed = false) :
    c.hands? .pump =
      if c.supervisor.onSocket = true ∧ m.kind = .subscribe then
        some ⟨m.listed, c.socket.any fun s => s.refusal?.isNone⟩
      else none := by
  have hcurrent : c.supervisor.current = .socket ↔ c.supervisor.onSocket = true := by
    rw [Supervisor.current]
    cases c.supervisor.onSocket <;> simp
  simp only [hands?, hout, hopen, hcurrent, true_and]

/-- No topic depends on a message that announces none. -/
theorem Alive.withOutbox {c : Client H W} {l : Ledger} (h : c.Alive l) {m : Message}
    {rest : List Message} (hout : c.core.outbox = m :: rest) (hkind : m.kind ≠ .subscribe) :
    (c.withOutbox rest).Alive l := by
  refine ⟨h.sound.withOutbox rest, h.linked.congr rfl rfl rfl, ?_⟩
  exact owes_withOutbox hout h.owes (fun heq => absurd heq hkind) fun _ _ hc => hc

/-- A message that goes to the socket. -/
theorem Alive.handed {c : Client H W} {l : Ledger} (h : c.Alive l) {m : Message}
    {rest : List Message} (hout : c.core.outbox = m :: rest) (hopen : c.isClosed = false)
    (hsocket : m.kind = .subscribe → c.supervisor.onSocket = true) :
    (c.withOutbox rest).Alive { l with handed := c.hands? .pump <|> l.handed } := by
  rw [hands?_pump hout hopen]
  by_cases hkind : m.kind = .subscribe
  · have hon := hsocket hkind
    rw [if_pos ⟨hon, hkind⟩]
    refine ⟨h.sound.withOutbox rest, ⟨?_, h.linked.connected⟩, ?_⟩
    · rintro - handing ⟨rfl⟩
      exact h.linked.takes h.sound hon
    · refine owes_withOutbox hout h.owes ?_ (fun hne => absurd hkind hne)
      intro _ topic hlisted
      rw [carries_socket (show (c.withOutbox rest).supervisor.onSocket = true from hon)]
      exact ⟨_, rfl, hlisted⟩
  · rw [if_neg fun hand => hkind hand.2]
    exact h.withOutbox hout hkind

theorem Sound.arm {c : Client H W} (h : c.Sound) (cursors : Cursors) :
    (c.arm cursors).1.Sound := by
  have hpaired := h.paired.arm cursors
  rw [arm_eq] at hpaired ⊢
  refine ⟨hpaired, h.hasSocket, h.onSocket, ?_⟩
  rw [Polling.arm_inFlight]
  exact h.stopped

/-- Arming leaves every listed topic with a poll. -/
theorem Alive.armed {c : Client H W} {l : Ledger} (hs : c.Sound) (hl : c.Linked l)
    (hoff : c.supervisor.onSocket = false) {cursors : Cursors}
    (howes : c.core.Owes fun topic => topic ∈ cursors.topics) : (c.arm cursors).1.Alive l := by
  have hsound := hs.arm cursors
  have hpolled : ∀ topic ∈ cursors.topics, topic ∈ (c.arm cursors).1.polled :=
    fun topic hmem => arm_polls hs.paired hmem
  rw [arm_eq] at hsound hpolled ⊢
  refine ⟨hsound, ⟨hl.taken, hl.connected⟩, ?_⟩
  · refine howes.mono ?_
    intro topic _ hmem
    refine (carries_polling ?_ l topic).mpr (.inl (hpolled topic hmem))
    exact hoff

/-- Where the first message of the outbox goes. -/
theorem pump_eq {c : Client H W} {m : Message} {rest : List Message}
    (hout : c.core.outbox = m :: rest) (hopen : c.isClosed = false) (now : Nat) :
    (c.pump now).1 =
      if c.socket.isSome = true ∧ (m.kind = .pong ∨ c.supervisor.onSocket = true) then
        ((c.withOutbox rest).onSocket now (.enqueue ⟨none, c.pack m⟩)).1
      else if m.kind = .subscribe then
        ((c.withOutbox rest).arm (m.subscriptions.getD ⟨[]⟩)).1
      else ((c.withOutbox rest).post .besteffort m).1 := by
  simp only [Client.pump, hopen, hout, Bool.false_eq_true, if_false, Bool.and_eq_true,
    Bool.or_eq_true, decide_eq_true_eq]
  by_cases hsocket : c.socket.isSome = true ∧ (m.kind = .pong ∨ c.supervisor.onSocket = true)
  · rw [if_pos hsocket, if_pos hsocket]
    rfl
  · rw [if_neg hsocket, if_neg hsocket]
    cases m.kind <;> rfl

section Pump
variable {c : Client H W} {l : Ledger} {m : Message} {rest : List Message}

theorem Inv.pump_socket (h : c.Inv l) (hout : c.core.outbox = m :: rest)
    (hopen : c.isClosed = false) (hsocket : m.kind = .pong ∨ c.supervisor.onSocket = true)
    (now : Nat) :
    let d := ((c.withOutbox rest).onSocket now (.enqueue ⟨none, c.pack m⟩)).1
    d.Inv (l.after c .pump d) := by
  have hnumbered := h.numbered.withOutbox rest
  have hon : m.kind = .subscribe → c.supervisor.onSocket = true := by
    intro hkind
    refine hsocket.resolve_left ?_
    rw [hkind]
    nofun
  have hhanded := (h.alive hopen).handed hout hopen hon
  have hkeeps : Keeps false (c.withOutbox rest)
      ((c.withOutbox rest).onSocket now (.enqueue ⟨none, c.pack m⟩)).1 :=
    keeps_onSocket hnumbered now nofun
  refine (hkeeps.inv _ nofun ⟨hnumbered, fun _ => hhanded⟩).settle ?_ rfl ?_ ?_
  · intro hd hon
    rwa [(hkeeps.supervisor hd).2] at hon
  · exact fun topic hmem => List.mem_append_left _ hmem
  · exact (Bool.or_false _).symm

theorem Inv.pump_arms (h : c.Inv l) (hout : c.core.outbox = m :: rest)
    (hopen : c.isClosed = false) (hoff : c.supervisor.onSocket = false)
    (hkind : m.kind = .subscribe) :
    let d := ((c.withOutbox rest).arm (m.subscriptions.getD ⟨[]⟩)).1
    d.Inv (l.after c .pump d) := by
  have halive := h.alive hopen
  have hlisted : (c.withOutbox rest).core.Owes fun topic => topic ∈ m.listed :=
    owes_withOutbox hout halive.owes (fun _ _ hmem => hmem) (fun hne => absurd hkind hne)
  have harmed := Alive.armed (halive.sound.withOutbox rest)
    (halive.linked.congr rfl rfl rfl) hoff hlisted
  have hhands : c.hands? .pump = none := by simp [hands?_pump hout hopen, hoff]
  refine Inv.settle_idle ⟨(h.numbered.withOutbox rest).arm _, fun _ => harmed⟩ ?_ hhands rfl
  intro _ hon
  rw [arm_eq] at hon
  exact hon

theorem Inv.pump_posts (h : c.Inv l) (hout : c.core.outbox = m :: rest)
    (hopen : c.isClosed = false) (hoff : c.supervisor.onSocket = false)
    (hkind : m.kind ≠ .subscribe) :
    let d := ((c.withOutbox rest).post .besteffort m).1
    d.Inv (l.after c .pump d) := by
  have hnumbered := h.numbered.withOutbox rest
  have hsent := (h.alive hopen).withOutbox hout hkind
  have hquiet : (c.withOutbox rest).Quiet ((c.withOutbox rest).post .besteffort m).1 :=
    quiet_post hnumbered c.calls (fun e he key hkey => .inr ⟨e, he, hkey⟩) rfl m
  have hhands : c.hands? .pump = none := by simp [hands?_pump hout hopen, hoff]
  have hinv := Inv.quiet ⟨hnumbered, fun _ => hsent⟩ hquiet
  exact hinv.settle_idle (fun _ hon => hon) hhands rfl

theorem Inv.pump (h : c.Inv l) (now : Nat) :
    (c.pump now).1.Inv (l.after c .pump (c.pump now).1) := by
  have hidle : c.hands? .pump = none → c.Inv (l.after c .pump c) := fun hhands =>
    h.after_keeps ((Quiet.refl h.numbered).keeps _) hhands
  by_cases hclosed : c.isClosed = true
  · have hpump : (c.pump now).1 = c := by simp [Client.pump, hclosed]
    rw [hpump]
    refine hidle ?_
    cases hout : c.core.outbox <;> simp [hands?, hout, hclosed]
  have hopen : c.isClosed = false := by simpa using hclosed
  cases hout : c.core.outbox with
  | nil =>
    have hpump : (c.pump now).1 = c := by simp [Client.pump, hclosed, hout]
    rw [hpump]
    exact hidle (by simp [hands?, hout])
  | cons m rest =>
    rw [pump_eq hout hopen]
    by_cases hsocket : c.socket.isSome = true ∧ (m.kind = .pong ∨ c.supervisor.onSocket = true)
    · rw [if_pos hsocket]
      exact h.pump_socket hout hopen hsocket.2 now
    · rw [if_neg hsocket]
      have hsound := (h.alive hopen).sound
      have hoff : c.supervisor.onSocket = false := by
        by_contra hon
        have hon : c.supervisor.onSocket = true := by simpa using hon
        exact hsocket ⟨hsound.hasSocket.symm.trans (hsound.onSocket hon), .inr hon⟩
      by_cases hkind : m.kind = .subscribe
      · rw [if_pos hkind]
        exact h.pump_arms hout hopen hoff hkind
      · rw [if_neg hkind]
        exact h.pump_posts hout hopen hoff hkind

end Pump

/-! ## Statuses -/

/-- Looking at a status believes no more than what the socket has told. -/
theorem Linked.connected_look {c : Client H W} {l : Ledger} (h : c.Linked l)
    {status : ConnectionStatus} {rest : List ConnectionStatus}
    (hstatuses : c.statuses = status :: rest) {on : Bool}
    (hon : on = true → status.connected = true) :
    l.cancelled = true ∨ ∀ s, c.socket = some s →
      (rest.getLast?.map ConnectionStatus.connected).getD on = true → s.isConnected = true := by
  refine h.connected.imp_right ?_
  intro hconnected s hsocket hbelieves
  refine hconnected s hsocket ?_
  rw [believes, hstatuses, List.getLast?_cons]
  cases hlast : rest.getLast? with
  | some last => simpa [hlast] using hbelieves
  | none => simpa using hon (by simpa [hlast] using hbelieves)

/-- Who has been told of a loss looks at it with the socket no longer current. -/
theorem Linked.taken_look {c : Client H W} {l : Ledger} (h : c.Linked l)
    {status : ConnectionStatus} {rest : List ConnectionStatus}
    (hstatuses : c.statuses = status :: rest) (hon : c.supervisor.onSocket = true)
    (hstatus : status.connected = true) {handing : Handing} (hhanded : l.handed = some handing) :
    handing.taken = true ∨ l.cancelled = true ∨ ∃ s ∈ rest, s.connected = false := by
  rcases h.taken hon handing hhanded with htaken | hcancelled | ⟨lost, hmem, hlost⟩
  · exact .inl htaken
  · exact .inr (.inl hcancelled)
  · rw [hstatuses] at hmem
    rcases List.mem_cons.mp hmem with rfl | hmem
    · rw [hlost] at hstatus
      cases hstatus
    · exact .inr (.inr ⟨lost, hmem, hlost⟩)

/-- Transports change places, and polling stops or goes on. -/
theorem Sound.switched {c d : Client H W} (h : c.Sound) (hpolled : d.polled = c.polled)
    (hsocket : d.socket = c.socket)
    (hsupervisor : d.supervisor =
      { c.supervisor with
        onSocket := !c.supervisor.onSocket
        polling := { c.supervisor.polling with stopped := !c.supervisor.onSocket } })
    (hon : d.supervisor.onSocket = true → c.supervisor.hasSocket = true) : d.Sound := by
  refine ⟨⟨?_, ?_⟩, ?_, ?_, ?_⟩
  · rw [hpolled, hsupervisor]
    exact h.paired.inFlight
  · rw [hpolled]
    exact h.paired.once
  · rw [hsocket, hsupervisor]
    exact h.hasSocket
  · intro hcurrent
    rw [hsupervisor]
    exact hon hcurrent
  · rw [hsupervisor]

theorem Inv.look {c : Client H W} {l : Ledger} (h : c.Inv l) :
    c.look.1.Inv (l.after c .look c.look.1) := by
  have hidle : c.Inv (l.after c .look c) :=
    h.after_keeps ((Quiet.refl h.numbered).keeps _) rfl
  rw [Client.look]
  by_cases hclosed : c.isClosed = true
  · rw [if_pos hclosed]
    exact hidle
  rw [if_neg hclosed]
  have halive := h.alive (by simpa using hclosed)
  cases hstatuses : c.statuses with
  | nil => exact hidle
  | cons status rest =>
    obtain ⟨hcurrent, hswitch⟩ := c.supervisor.onStatus_eq status
    have hon : (c.supervisor.onStatus status).supervisor.onSocket = true →
        status.connected = true ∧ c.supervisor.hasSocket = true :=
      fun hd => Bool.and_eq_true_iff.mp (hcurrent.symm.trans hd)
    have hlink := halive.linked.connected_look hstatuses fun hd => (hon hd).1
    dsimp only
    rcases hswitch with ⟨hresubscribe, hsupervisor⟩ | ⟨hresubscribe, hsupervisor⟩
    · rw [hresubscribe, if_pos rfl]
      refine ⟨h.numbered.congr rfl rfl rfl, ?_⟩
      intro _
      refine ⟨?_, ⟨?_, ?_⟩, Core.owes_resubscribe _ _⟩
      · exact halive.sound.switched rfl rfl hsupervisor fun hd => (hon hd).2
      · intro hd handing hhanded
        have hbefore : c.supervisor.onSocket = false := by simpa [hsupervisor] using hd
        rw [handed_switched _ _ hbefore hd] at hhanded
        cases hhanded
      · exact hlink.imp_left fun hcancelled => by simp [Ledger.after, hcancelled]
    · rw [hresubscribe, hsupervisor]
      rw [hsupervisor] at hlink hon
      have halive' : { c with statuses := rest : Client H W }.Alive l := by
        refine ⟨halive.sound.congr rfl rfl rfl, ⟨?_, hlink⟩, halive.owes⟩
        intro hd handing hhanded
        exact halive.linked.taken_look hstatuses hd (hon hd).1 hhanded
      exact Inv.settle_idle ⟨h.numbered.congr rfl rfl rfl, fun _ => halive'⟩ (fun _ hd => hd) rfl rfl

/-! ## The ends of polls -/

theorem topics_cursors (r : Registry H) : r.cursors.topics = r.names := by
  simp [Registry.cursors, Cursors.topics, Registry.names, Assoc.keys]

/-- What is owed while the socket is current, whatever becomes of polls. -/
theorem Alive.owes_handed {c : Client H W} {l : Ledger} (h : c.Alive l) :
    c.core.Owes fun topic => c.supervisor.onSocket = true →
      ∃ handing, l.handed = some handing ∧ topic ∈ handing.topics :=
  h.owes.mono fun topic _ hcarried hon => (carries_socket hon l topic).mp hcarried

/-- Polling that goes on leaves every topic with a poll, whatever it had before. While
it is stopped the socket has all topics. -/
theorem Inv.rearm {c : Client H W} {l : Ledger} (hnumbered : c.Numbered)
    (hs : c.isClosed = false → c.Sound) (hl : c.isClosed = false → c.Linked l)
    (howes : c.isClosed = false →
      c.core.Owes fun topic => c.supervisor.onSocket = true →
        ∃ handing, l.handed = some handing ∧ topic ∈ handing.topics) : c.rearm.1.Inv l := by
  rw [Client.rearm]
  by_cases hclosed : c.isClosed = true
  · rw [if_pos (by simp [hclosed])]
    exact ⟨hnumbered, fun hopen => absurd (hclosed.symm.trans hopen) nofun⟩
  have hopen : c.isClosed = false := by simpa using hclosed
  by_cases hstopped : c.supervisor.polling.stopped = true
  · rw [if_pos (by simp [hstopped])]
    have hon : c.supervisor.onSocket = true := (hs hopen).stopped.symm.trans hstopped
    exact ⟨hnumbered, fun _ => ⟨hs hopen, hl hopen, (howes hopen).mono fun topic _ h =>
      (carries_socket hon l topic).mpr (h hon)⟩⟩
  · rw [if_neg (by simp [hstopped, hopen])]
    have hoff : c.supervisor.onSocket = false := by
      rw [← (hs hopen).stopped]
      simpa using hstopped
    refine ⟨hnumbered.arm _, fun _ => Alive.armed (hs hopen) (hl hopen) hoff ?_⟩
    refine (howes hopen).mono ?_
    intro topic hmem _
    rwa [topics_cursors]

theorem supervisor_rearm (c : Client H W) :
    c.rearm.1.supervisor.onSocket = c.supervisor.onSocket := by
  rw [Client.rearm]
  split
  · rfl
  · rw [arm_eq]

theorem isClosed_rearm (c : Client H W) : c.rearm.1.isClosed = c.isClosed := by
  rw [Client.rearm]
  split
  · rfl
  · rw [arm_eq]
    rfl

theorem Inv.retry {c : Client H W} {l : Ledger} (h : c.Inv l) (now : Nat) :
    (c.retry now).1.Inv (l.after c .retry (c.retry now).1) := by
  rw [Client.retry]
  cases c.retries.find? (· ≤ now) with
  | none => exact h.after_keeps ((Quiet.refl h.numbered).keeps _) rfl
  | some deadline =>
    have hinv := Inv.rearm (c := { c with retries := c.retries.erase deadline }) (l := l)
      (h.numbered.congr rfl rfl rfl)
      (fun hopen => (h.alive hopen).sound.congr rfl rfl rfl)
      (fun hopen => (h.alive hopen).linked.congr rfl rfl rfl)
      (fun hopen => (h.alive hopen).owes_handed)
    refine hinv.settle_idle ?_ rfl rfl
    intro _ hon
    rwa [supervisor_rearm] at hon

/-- A poll has ended and is no longer under way. -/
def withoutPoll (key : Nat) (topic : String) (c : Client H W) : Client H W :=
  { c with posts := Assoc.erase key c.posts }.withPolling (Polling.finish topic)

theorem Numbered.withoutPoll {c : Client H W} (hc : c.Numbered) (key : Nat) (topic : String) :
    (c.withoutPoll key topic).Numbered := by
  have hsub := Assoc.erase_sublist key c.posts
  refine ⟨Assoc.distinct_erase hc.distinct, fun e he => hc.bounded e (hsub.subset he), ?_⟩
  intro e he k hk
  obtain ⟨hbound, hother⟩ := hc.calls e he k hk
  exact ⟨hbound, fun purpose hmem => hother purpose (hsub.subset hmem)⟩

theorem polled_withoutPoll {c : Client H W} (hc : c.Paired) {key : Nat} {topic : String}
    {ts : Int64} (h : Assoc.find? key c.posts = some (.poll topic ts)) :
    (c.withoutPoll key topic).polled = c.polled.erase topic := by
  have honce := hc.once
  rw [polled_eq] at honce ⊢
  rw [polled_eq]
  exact polledBy_erase_poll h honce

theorem Sound.withoutPoll {c : Client H W} (hc : c.Sound) {key : Nat} {topic : String}
    {ts : Int64} (h : Assoc.find? key c.posts = some (.poll topic ts)) :
    (c.withoutPoll key topic).Sound := by
  have hpolled := polled_withoutPoll hc.paired h
  refine ⟨⟨?_, ?_⟩, hc.hasSocket, hc.onSocket, hc.stopped⟩
  · rw [hpolled, hc.paired.inFlight]
    rfl
  · rw [hpolled]
    exact hc.paired.once.erase topic

/-- Only the topic of the poll loses its carrier. -/
theorem carries_withoutPoll {c : Client H W} {l k : Ledger} (hc : c.Paired) {key : Nat}
    {topic : String} {ts : Int64} (h : Assoc.find? key c.posts = some (.poll topic ts))
    (hhanded : k.handed = l.handed) (hkept : ∀ t ∈ l.refused, t ∈ k.refused)
    (hrefused : topic ∈ k.refused) {other : String} (hcarried : c.Carries l other) :
    (c.withoutPoll key topic).Carries k other := by
  refine carries_congr (c := c) (d := c.withoutPoll key topic) rfl hhanded id ?_
    (fun hmem => .inr (hkept other hmem)) hcarried
  intro hmem
  by_cases heq : other = topic
  · exact .inr (heq ▸ hrefused)
  · rw [polled_withoutPoll hc h]
    exact .inl ((List.mem_erase_of_ne heq).mpr hmem)

section PollEnds
variable {c : Client H W} {l : Ledger} {key : Nat} {topic : String} {ts : Int64}

theorem Linked.withoutPoll (h : c.Linked l) (key : Nat) (topic : String) :
    (c.withoutPoll key topic).Linked l :=
  ⟨h.taken, h.connected⟩

/-- An answered poll is followed by the next one. -/
theorem Inv.pollAnswered {b : Behaviour H W} (hb : b.Proper) (h : c.Inv l) (now : Nat)
    (hfound : Assoc.find? key c.posts = some (.poll topic ts)) (body : String) :
    let d := ((c.withoutPoll key topic).deliver b now body).1.rearm.1
    d.Inv (l.after c (.outcome key (.ok body)) d) := by
  have hquiet := quiet_deliver hb (h.numbered.withoutPoll key topic) now body
  generalize ((c.withoutPoll key topic).deliver b now body).1 = d at hquiet
  have hsound : d.isClosed = false → d.Sound := fun hopen =>
    ((h.alive (hquiet.isClosed hopen)).sound.withoutPoll hfound).quiet hquiet hopen
  have hlinked : d.isClosed = false → d.Linked l := fun hopen =>
    ((h.alive (hquiet.isClosed hopen)).linked.withoutPoll key topic).quiet hquiet hopen
  have hinv : d.rearm.1.Inv l := by
    refine Inv.rearm hquiet.numbered hsound hlinked ?_
    intro hopen
    rw [hquiet.supervisor hopen]
    exact Core.owes_moves hquiet.moves (h.alive (hquiet.isClosed hopen)).owes_handed
  refine hinv.settle_idle ?_ rfl rfl
  intro hopen hon
  rw [isClosed_rearm] at hopen
  rw [supervisor_rearm, hquiet.supervisor hopen] at hon
  exact hon

/-- A refused poll is the last of its topic. -/
theorem Inv.pollRefused (h : c.Inv l)
    (hfound : Assoc.find? key c.posts = some (.poll topic ts)) {e : TransportError}
    (he : e.isClientError = true) :
    let d := c.withoutPoll key topic
    d.Inv (l.after c (.outcome key (.error e)) d) := by
  intro d
  let k : Ledger := { l with refused := l.refused ++ [topic] }
  have hinv : d.Inv k := by
    refine ⟨h.numbered.withoutPoll key topic, ?_⟩
    intro hopen
    have halive := h.alive hopen
    refine ⟨halive.sound.withoutPoll hfound, ?_, ?_⟩
    · exact ⟨halive.linked.taken, halive.linked.connected⟩
    · refine halive.owes.mono ?_
      intro other _
      have hadded : topic ∈ k.refused := List.mem_append_right _ (List.mem_singleton.mpr rfl)
      have hkept : ∀ t ∈ l.refused, t ∈ k.refused := fun t hmem => List.mem_append_left _ hmem
      exact carries_withoutPoll (l := l) (k := k) halive.sound.paired hfound rfl hkept hadded
  refine hinv.settle (fun _ hon => hon) rfl ?_ (Bool.or_false _).symm
  simp [k, refuses?, he, hfound, Purpose.topic?]

/-- After a poll that failed otherwise the topic waits for the end of the delay. -/
theorem Inv.pollFailed (h : c.Inv l)
    (hfound : Assoc.find? key c.posts = some (.poll topic ts)) (e : TransportError)
    (deadline : Nat) :
    let d := { c.withoutPoll key topic with retries := c.retries ++ [deadline] }
    d.Inv (l.after c (.outcome key (.error e)) d) := by
  intro d
  have hnumbered := h.numbered.withoutPoll key topic
  refine Inv.settle_idle (l := l) ⟨hnumbered.congr rfl rfl rfl, fun hopen => ?_⟩
    (fun _ hon => hon) rfl rfl
  have halive := h.alive hopen
  have hsound := halive.sound.withoutPoll hfound
  refine ⟨hsound.congr rfl rfl rfl, ⟨halive.linked.taken, halive.linked.connected⟩, ?_⟩
  refine halive.owes.mono ?_
  intro other _ hcarried
  cases hon : c.supervisor.onSocket with
  | true =>
    rw [carries_socket hon] at hcarried
    exact (carries_socket (c := d) hon l other).mpr hcarried
  | false => exact (carries_polling (c := d) hon l other).mpr (.inr (.inl (by simp [d])))

theorem pollOutcome_refused (b : Behaviour H W) (now : Nat) {e : TransportError}
    (he : e.isClientError = true) :
    ({ c with posts := Assoc.erase key c.posts }.pollOutcome b now topic (.error e)).1 =
      c.withoutPoll key topic := by
  have hnext : Polling.next (.error e) = .abandon := if_pos he
  simp only [Client.pollOutcome, hnext]
  rfl

theorem pollOutcome_failed (b : Behaviour H W) (c : Client H W) (key : Nat) (topic : String)
    (now : Nat) {e : TransportError} (he : ¬e.isClientError = true) :
    ({ c with posts := Assoc.erase key c.posts }.pollOutcome b now topic (.error e)).1 =
      if c.isClosed = true then c.withoutPoll key topic
      else
        { c.withoutPoll key topic with
          retries := c.retries ++ [now + c.settings.polling.retryDelayMs.toNat] } := by
  have hnext : Polling.next (.error e) = .afterDelay := if_neg he
  simp only [Client.pollOutcome, hnext]
  by_cases hclosed : c.isClosed = true
  · rw [if_pos hclosed]
    exact congrArg Prod.fst (if_pos hclosed)
  · rw [if_neg hclosed]
    exact congrArg Prod.fst (if_neg hclosed)

theorem Inv.pollOutcome {b : Behaviour H W} (hb : b.Proper) (h : c.Inv l) (now : Nat)
    (hfound : Assoc.find? key c.posts = some (.poll topic ts))
    (result : Except TransportError String) :
    let d := ({ c with posts := Assoc.erase key c.posts }.pollOutcome b now topic result).1
    d.Inv (l.after c (.outcome key result) d) := by
  cases result with
  | ok body => exact h.pollAnswered hb now hfound body
  | error e =>
    intro d
    by_cases hclient : e.isClientError = true
    · have hrefused : d = c.withoutPoll key topic := pollOutcome_refused b now hclient
      rw [hrefused]
      exact h.pollRefused hfound hclient
    · have hfailed : d = _ := pollOutcome_failed b c key topic now hclient
      by_cases hclosed : c.isClosed = true
      · rw [if_pos hclosed] at hfailed
        constructor
        · rw [hfailed]
          exact h.numbered.withoutPoll key topic
        · intro hopen
          rw [hfailed] at hopen
          exact absurd (hclosed.symm.trans hopen) nofun
      · rw [if_neg hclosed] at hfailed
        rw [hfailed]
        exact h.pollFailed hfound e _

end PollEnds

/-! ## Runs -/

section Runs
variable {b : Behaviour H W}

theorem topic?_of_find? {c : Client H W} (hc : c.Numbered) {key : Nat} {purpose : Purpose}
    (hfound : Assoc.find? key c.posts = some purpose) (hpurpose : purpose.topic? = none) :
    ∀ p, (key, p) ∈ c.posts → p.topic? = none := by
  intro p hmem
  obtain rfl := Option.some.inj (hfound.symm.trans (Assoc.find?_of_mem hc.distinct hmem))
  exact hpurpose

theorem Inv.outcome (hb : b.Proper) {c : Client H W} {l : Ledger} (h : c.Inv l) (now key : Nat)
    (result : Except TransportError String) :
    let d := (c.outcome b now key result).1
    d.Inv (l.after c (.outcome key result) d) := by
  have hquiet : ∀ d : Client H W, c.Quiet d → d.Inv (l.after c (.outcome key result) d) :=
    fun d hd => h.after_keeps (hd.keeps _) rfl
  simp only [Client.outcome]
  cases hfound : Assoc.find? key c.posts with
  | none => exact hquiet c (.refl h.numbered)
  | some purpose =>
    cases purpose with
    | poll topic ts => exact h.pollOutcome hb now hfound result
    | call number =>
      have herase := quiet_erasePost h.numbered (topic?_of_find? h.numbered hfound rfl)
      exact hquiet _ (herase.trans (quiet_callOutcome hb herase.numbered now number result))
    | besteffort =>
      have herase := quiet_erasePost h.numbered (topic?_of_find? h.numbered hfound rfl)
      cases result with
      | ok body => exact hquiet _ (herase.trans (quiet_deliver hb herase.numbered now body))
      | error e => exact hquiet _ herase

/-- No event breaks the invariant. -/
theorem Inv.step (hb : b.Proper) {c : Client H W} {l : Ledger} (h : c.Inv l) (now : Nat)
    (e : ClientEvent H) : (c.step b now e).1.Inv (l.after c e (c.step b now e).1) := by
  cases e with
  | subscribe topic handler =>
    exact h.after_keeps ((quiet_subscribe hb h.numbered topic handler).keeps _) rfl
  | unsubscribe topic id =>
    exact h.after_keeps ((quiet_unsubscribe h.numbered topic id).keeps _) rfl
  | request uri payload reported =>
    exact h.after_keeps (keeps_request h.numbered now uri payload reported) rfl
  | describe metadata => exact h.after_keeps (keeps_describe h.numbered now metadata) rfl
  | close => exact h.after_keeps ((quiet_close h.numbered).keeps _) rfl
  | pump => exact h.pump now
  | look => exact h.look
  | payload text => exact h.after_keeps (keeps_payload hb h.numbered now text) rfl
  | socket e =>
    refine h.after_keeps (keeps_onSocket h.numbered now ?_) rfl
    rintro rfl
    rfl
  | outcome key result => exact h.outcome hb now key result
  | retry => exact h.retry now
  | expire call => exact h.after_keeps ((quiet_expire h.numbered now call).keeps _) rfl
  | collect call => exact h.after_keeps ((quiet_collect h.numbered call).keeps _) rfl

theorem Inv.run (hb : b.Proper) (events : List (Nat × ClientEvent H)) {c : Client H W}
    {l : Ledger} (h : c.Inv l) : (c.run b events).1.Inv (l.along b c events) := by
  induction events generalizing c l with
  | nil => exact h
  | cons e rest ih =>
    obtain ⟨now, e⟩ := e
    exact ih (h.step hb now e)

theorem inv_start (settings : Settings) (surroundings : W) (now : Nat) :
    (start (H := H) settings surroundings now).Inv {} := by
  refine ⟨numbered_start settings surroundings now, ?_⟩
  intro _
  refine ⟨⟨⟨rfl, List.nodup_nil⟩, ?_, nofun, rfl⟩, ⟨nofun, .inr ?_⟩, nofun⟩
  · simp only [start]
    cases settings.forcePolling <;> rfl
  · intro s _ hbelieves
    cases hbelieves

/-- Whenever an open client has nothing left in its outbox and no status left to look
at, every topic that it tracks has a carrier. If the socket is current, that is the
last subscribe message that it was handed since it became current; it lists all
topics, and the socket took it unless it had been cancelled. If polling is current,
the topic has a poll under way, a retry delay is running, or the last poll of the
topic ended with a client error and the topic has not been armed since. A switch of the
transport and its announcement are one step here. If a topic were announced between
them, the announcement of the switch would leave it out and still be the last one. -/
theorem topics_carried (hb : b.Proper) (settings : Settings) (surroundings : W) (since : Nat)
    (events : List (Nat × ClientEvent H)) :
    let c := ((start settings surroundings since).run b events).1
    let l := Ledger.along b (start settings surroundings since) {} events
    c.isClosed = false → c.core.outbox = [] → c.statuses = [] →
      match c.supervisor.current with
      | .socket => c.topics = [] ∨ ∃ h, l.handed = some h ∧ (∀ topic ∈ c.topics, topic ∈ h.topics) ∧
          (h.taken = true ∨ l.cancelled = true)
      | .polling => ∀ topic ∈ c.topics,
          topic ∈ c.polled ∨ c.retries ≠ [] ∨ topic ∈ l.refused := by
  intro c l hopen houtbox hstatuses
  have halive := (Inv.run hb events (inv_start settings surroundings since)).alive hopen
  have hcarried : ∀ topic ∈ c.topics, c.Carries l topic := by
    intro topic hmem
    have howes := halive.owes topic hmem
    rwa [houtbox] at howes
  cases hon : c.supervisor.onSocket with
  | true =>
    have hcurrent : c.supervisor.current = .socket := by simp [Supervisor.current, hon]
    rw [hcurrent]
    cases hhanded : l.handed with
    | none =>
      left
      refine List.eq_nil_iff_forall_not_mem.mpr ?_
      intro topic hmem
      obtain ⟨h, hsome, -⟩ := (carries_socket hon l topic).mp (hcarried topic hmem)
      rw [hhanded] at hsome
      cases hsome
    | some h =>
      refine .inr ⟨h, rfl, ?_, ?_⟩
      · intro topic hmem
        obtain ⟨h', hsome, hlisted⟩ := (carries_socket hon l topic).mp (hcarried topic hmem)
        obtain rfl := Option.some.inj (hhanded.symm.trans hsome)
        exact hlisted
      · rcases halive.linked.taken hon h hhanded with htaken | hcancelled | ⟨s, hmem, -⟩
        · exact .inl htaken
        · exact .inr hcancelled
        · rw [hstatuses] at hmem
          cases hmem
  | false =>
    have hcurrent : c.supervisor.current = .polling := by simp [Supervisor.current, hon]
    rw [hcurrent]
    exact fun topic hmem => (carries_polling hon l topic).mp (hcarried topic hmem)

end Runs

open Scenario in
/-- A topic that is polled first goes over to the socket once that is healthy. -/
example :
    let events : List (Nat × ClientEvent Listener) :=
      [(0, .subscribe "a" { name := "x", topic := "a" }), (0, .pump), (0, .socket .attempt),
       (1, .socket .dialed), (2, .socket (.payload true)), (2, .look), (2, .pump)]
    let c := ((start {} {} 0).run listen events).1
    let l := Ledger.along listen (start {} {} 0) {} events
    c.topics = ["a"] ∧ ∃ h, l.handed = some h ∧ (∀ topic ∈ c.topics, topic ∈ h.topics) ∧
      (h.taken = true ∨ l.cancelled = true) := by
  intro events c l
  have hcarried := topics_carried listen_proper {} {} 0 events
  have hopen : c.isClosed = false := by decide +kernel
  have houtbox : c.core.outbox = [] := List.isEmpty_iff.mp (by decide +kernel)
  have hstatuses : c.statuses = [] := List.isEmpty_iff.mp (by decide +kernel)
  have hcurrent : c.supervisor.current = .socket := by decide +kernel
  have htopics : c.topics = ["a"] := by decide +kernel
  have hsocket := hcarried hopen houtbox hstatuses
  rw [hcurrent] at hsocket
  refine ⟨htopics, hsocket.resolve_left ?_⟩
  rw [htopics]
  nofun

end Client

end TopicClient
