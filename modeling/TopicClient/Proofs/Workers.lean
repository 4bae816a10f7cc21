import TopicClient.Client.Workers
import TopicClient.Proofs.PollStarts

/-!
# Polls among workers

Several workers arm polling, and what one of them has found may be out of date when it acts. So a
topic may be armed while the socket is current, by an errand from before. All else holds in spite
of them: one poll for each topic, from its own cursor, and no errand that begins while the socket
is current. A client that nobody interrupts is one whose errands are carried out at once.
-/

namespace TopicClient

/-- To arm polling has been decided. -/
def Errand.arms : Errand → Bool
  | renew | arm _ => true
  | dispatch _ | ask => false

namespace Client
variable {H W : Type}

/-! ## Errands that nobody interrupts -/

/-- An errand that is carried out at once. -/
def finishErrand (b : Behaviour H W) (now : Nat) (errand : Errand) (c : Client H W) : Step H W :=
  match errand with
  | .dispatch body => (c.deliver b now body).andThen rearm
  | .ask => c.rearm
  | .renew => c.arm c.core.registry.cursors
  | .arm cursors => forEach startPoll cursors c

theorem forEach_cons {α : Type} (f : α → Client H W → Step H W) (a : α) (as : List α)
    (c : Client H W) : forEach f (a :: as) c = (f a c).andThen (forEach f as) :=
  rfl

theorem forEach_singleton {α : Type} (f : α → Client H W → Step H W) (a : α) (c : Client H W) :
    forEach f [a] c = f a c := by
  simp only [forEach, Step.andThen, List.append_nil]

/-- Topics that are armed one after another are armed together. -/
theorem arm_eq_forEach (entries : List (String × Int64)) (c : Client H W) :
    c.arm ⟨entries⟩ = forEach startPoll entries c := by
  induction entries generalizing c with
  | nil => rfl
  | cons cursor rest ih =>
    obtain ⟨topic, ts⟩ := cursor
    rw [forEach_cons, startPoll]
    by_cases hmem : topic ∈ c.supervisor.polling.inFlight
    · rw [if_pos hmem, ← funext ih]
      simp only [arm, Polling.arm, if_pos hmem]
      rfl
    · rw [if_neg hmem, ← funext ih]
      simp only [arm, Polling.arm, if_neg hmem]
      rfl

theorem startPoll_eq (cursor : String × Int64) (c : Client H W) :
    c.startPoll cursor = c.arm ⟨[cursor]⟩ := by
  rw [arm_eq_forEach, forEach_singleton]

theorem andThen_forEach_nil {α : Type} (f : α → Client H W → Step H W) (s : Step H W) :
    s.andThen (forEach f []) = s := by
  simp only [Step.andThen, forEach, List.append_nil]

/-- What follows a step without effects. -/
theorem andThen_forEach_one {α : Type} (f : α → Client H W → Step H W) (a : α)
    (c : Client H W) : Step.andThen (c, []) (forEach f [a]) = f a c := by
  rw [Step.andThen, forEach_singleton]
  rfl

/-- The message that a worker takes out of the outbox to arm polling. -/
theorem sends?_eq_some {c : Client H W} {cursors : Cursors} (h : c.sends? = some cursors) :
    ∃ m rest, c.core.outbox = m :: rest ∧ m.kind = .subscribe ∧
      m.subscriptions.getD ⟨[]⟩ = cursors ∧ c.isClosed = false ∧
      (c.socket.isSome && c.supervisor.onSocket) = false := by
  rw [sends?] at h
  cases hout : c.core.outbox with
  | nil => simp [hout] at h
  | cons m rest =>
    simp only [hout, Option.ite_none_left_eq_some, Bool.or_eq_true, decide_eq_true_eq, not_or,
      not_not, Bool.not_eq_true, Option.some.injEq] at h
    obtain ⟨⟨⟨hopen, hoff⟩, hkind⟩, hcursors⟩ := h
    exact ⟨m, rest, rfl, hkind, hcursors, hopen, hoff⟩

theorem sends?_of_first {c : Client H W} {m : Message} {rest : List Message}
    (first : c.core.outbox = m :: rest) (kind : m.kind = .subscribe) (opened : c.isClosed = false)
    (off : c.supervisor.onSocket = false) : c.sends? = some (m.subscriptions.getD ⟨[]⟩) := by
  simp [sends?, first, kind, opened, off]

theorem pump_of_sends? {c : Client H W} {cursors : Cursors} (h : c.sends? = some cursors)
    (now : Nat) : c.pump now = (c.withOutbox c.core.outbox.tail).arm cursors := by
  obtain ⟨m, rest, hout, hkind, hcursors, hopen, hoff⟩ := sends?_eq_some h
  have hother : (c.socket.isSome &&
      (decide (MessageKind.subscribe = MessageKind.pong) || c.supervisor.onSocket)) = false := hoff
  simp only [pump, hopen, hout, hkind, hother, hcursors]
  rfl

/-- A step of the client is what it undertakes and all errands of that, one right after another. -/
theorem step_eq_undertake (b : Behaviour H W) (now : Nat) (c : Client H W) (e : ClientEvent H) :
    c.step b now e =
      (c.undertake b now e).1.andThen (forEach (finishErrand b now) (c.undertake b now e).2) := by
  cases e with
  | pump =>
    simp only [step, undertake]
    cases hsends : c.sends? with
    | none => rw [andThen_forEach_nil]
    | some cursors =>
      rw [andThen_forEach_one, finishErrand, ← arm_eq_forEach, pump_of_sends? hsends]
      rfl
  | outcome key result =>
    cases result with
    | error e => simp only [undertake, andThen_forEach_nil]
    | ok body =>
      simp only [step, undertake]
      split
      next topic ts hfound =>
        rw [andThen_forEach_one, outcome_answered b hfound]
        rfl
      · rw [andThen_forEach_nil]
  | retry =>
    simp only [step, undertake, retry]
    cases c.retries.find? (· ≤ now) with
    | none => rfl
    | some deadline =>
      simp only [andThen_forEach_one]
      rfl
  | _ => simp only [undertake, andThen_forEach_nil]

/-! ## What an event leaves to be done -/

/-- What is left of the invariant of a run if nothing of the run is remembered. -/
structure Regular (c : Client H W) : Prop where
  numbered : c.Numbered
  sound : c.isClosed = false → c.Sound
  owes : c.isClosed = false → c.core.Owes fun _ => True

theorem Inv.regular {c : Client H W} {l : Ledger} (h : c.Inv l) : c.Regular where
  numbered := h.numbered
  sound hopen := (h.alive hopen).sound
  owes hopen := (h.alive hopen).owes.mono fun _ _ _ => trivial

/-- A ledger in which every topic has all carriers, and nothing is asked of the socket. -/
theorem Regular.exists_inv {c : Client H W} (h : c.Regular) : ∃ l, c.Inv l := by
  let names := c.core.registry.names
  let l : Ledger := { handed := some ⟨names, true⟩, refused := names, cancelled := true }
  refine ⟨l, h.numbered, fun hopen => ⟨h.sound hopen, ⟨?_, .inl rfl⟩, ?_⟩⟩
  · exact fun _ _ _ => .inr (.inl rfl)
  · refine (h.owes hopen).mono fun topic hmem _ => ?_
    cases hon : c.supervisor.onSocket with
    | true => exact (carries_socket hon l topic).mpr ⟨_, rfl, hmem⟩
    | false => exact (carries_polling hon l topic).mpr (.inr (.inr hmem))

/-- What an event does at once: all that it does, or all but what polling waits for. -/
inductive Undertaken (b : Behaviour H W) (now : Nat) (c : Client H W) :
    ClientEvent H → Step H W × List Errand → Prop
  | whole {e : ClientEvent H} (steady : (c.ended now e).Steady (c.step b now e)) :
      Undertaken b now c e (c.step b now e, [])
  | sent {m : Message} {rest : List Message} (first : c.core.outbox = m :: rest)
      (kind : m.kind = .subscribe) (opened : c.isClosed = false)
      (off : c.supervisor.onSocket = false) :
      Undertaken b now c .pump
        ((c.withOutbox rest, []), [.arm (m.subscriptions.getD ⟨[]⟩).entries])
  | answered {key : Nat} {topic : String} {ts : Int64} (body : String)
      (poll : Assoc.find? key c.posts = some (.poll topic ts)) :
      Undertaken b now c (.outcome key (.ok body)) ((c.withoutPoll key topic, []), [.dispatch body])
  | waited {deadline : Nat} (running : deadline ∈ c.retries) (due : deadline ≤ now) :
      Undertaken b now c .retry (({ c with retries := c.retries.erase deadline }, []), [.ask])

/-- An event that cannot arm polling. -/
theorem Course.steady_of_unarmed {now : Nat} {c : Client H W} {e : ClientEvent H} {s : Step H W}
    (h : Course now c e s) (unarmed : ∀ d cursors, c.isClosed = false →
      c.supervisor.onSocket = false → ¬Arms now c d e cursors) : (c.ended now e).Steady s := by
  cases h with
  | steady steady => exact steady
  | armed _ arms opened before => exact absurd arms (unarmed _ _ opened before)

section Undertaken
variable {b : Behaviour H W} {c : Client H W} {now : Nat}

theorem undertaken_pump (h : c.Regular) :
    Undertaken b now c .pump (c.undertake b now .pump) := by
  rw [undertake]
  cases hsends : c.sends? with
  | some cursors =>
    obtain ⟨m, rest, hout, hkind, rfl, hopen, hoff⟩ := sends?_eq_some hsends
    have hsound := h.sound hopen
    have hpolling : c.supervisor.onSocket = false := by
      rw [← hsound.hasSocket] at hoff
      cases hon : c.supervisor.onSocket with
      | false => rfl
      | true => rwa [hsound.onSocket hon, hon] at hoff
    simp only [hout, List.tail_cons]
    exact .sent hout hkind hopen hpolling
  | none =>
    refine .whole ((course_pump h.numbered h.sound now).steady_of_unarmed ?_)
    rintro d cursors hopen hoff ⟨first, kind⟩
    rw [sends?_of_first first kind hopen hoff] at hsends
    cases hsends

theorem undertaken_answer (h : c.Regular) (hb : b.Proper) (key : Nat) (body : String) :
    Undertaken b now c (.outcome key (.ok body)) (c.undertake b now (.outcome key (.ok body))) := by
  rw [undertake]
  split
  next topic ts hfound => exact .answered body hfound
  next hother =>
    refine .whole ((course_outcome hb h.numbered h.sound now key _).steady_of_unarmed ?_)
    rintro d cursors - - ⟨⟩
    next topic ts hfound => exact hother topic ts hfound

theorem undertaken_retry : Undertaken b now c .retry (c.undertake b now .retry) := by
  rw [undertake]
  cases hfound : c.retries.find? (· ≤ now) with
  | some deadline =>
    have hdue : deadline ≤ now := by simpa using List.find?_some hfound
    exact .waited (List.mem_of_find?_eq_some hfound) hdue
  | none =>
    have hstays : c.step b now .retry = (c, []) := by simp only [step, retry, hfound]
    have hsteady : (c.ended now .retry).Steady (c.step b now .retry) := by
      rw [hstays]
      exact .refl c
    rw [← hstays]
    exact .whole hsteady

theorem undertaken (h : c.Regular) (hb : b.Proper) (now : Nat) (e : ClientEvent H) :
    Undertaken b now c e (c.undertake b now e) := by
  have hwhole : c.undertake b now e = (c.step b now e, []) → (∀ d cursors, ¬Arms now c d e cursors) →
      Undertaken b now c e (c.undertake b now e) := by
    intro heq unarmed
    rw [heq]
    exact .whole ((course_step hb h.numbered h.sound now e).steady_of_unarmed
      fun d cursors _ _ => unarmed d cursors)
  cases e with
  | pump => exact undertaken_pump h
  | retry => exact undertaken_retry
  | outcome key result =>
    cases result with
    | ok body => exact undertaken_answer h hb key body
    | error e => exact hwhole rfl fun d cursors harms => by cases harms
  | _ => exact hwhole rfl fun d cursors harms => by cases harms

end Undertaken

/-! ## Clients between moves -/

section Moves
variable {b : Behaviour H W} {c d : Client H W} {v : Version} {held : List (Nat × String)}

theorem Regular.quiet (h : c.Regular) (hq : c.Quiet d) : d.Regular := by
  obtain ⟨l, hinv⟩ := h.exists_inv
  exact (hinv.quiet hq).regular

theorem Regular.step (h : c.Regular) (hb : b.Proper) (now : Nat) (e : ClientEvent H) :
    (c.step b now e).1.Regular := by
  obtain ⟨l, hinv⟩ := h.exists_inv
  exact (hinv.step hb now e).regular

theorem isClosed_arm (cursors : Cursors) (c : Client H W) :
    (c.arm cursors).1.isClosed = c.isClosed :=
  congrArg Core.closed (core_arm cursors c)

theorem Regular.arm (h : c.Regular) (cursors : Cursors) : (c.arm cursors).1.Regular := by
  refine ⟨h.numbered.arm cursors, ?_, ?_⟩
  · rw [isClosed_arm]
    exact fun hopen => (h.sound hopen).arm cursors
  · rw [isClosed_arm, core_arm]
    exact h.owes

theorem Regular.undertake (h : c.Regular) (hb : b.Proper) (now : Nat) (e : ClientEvent H) :
    (c.undertake b now e).1.1.Regular := by
  have hundertaken := undertaken h hb now e
  generalize c.undertake b now e = r at hundertaken
  cases hundertaken with
  | whole => exact h.step hb now e
  | @sent m rest first =>
    refine ⟨h.numbered.withOutbox rest, fun hopen => (h.sound hopen).withOutbox rest, ?_⟩
    exact fun hopen => owes_withOutbox first (h.owes hopen) (fun _ _ _ => trivial) fun _ _ hc => hc
  | @answered key topic ts body poll =>
    exact ⟨h.numbered.withoutPoll key topic, fun hopen => (h.sound hopen).withoutPoll poll, h.owes⟩
  | waited =>
    exact ⟨h.numbered.congr rfl rfl rfl, fun hopen => (h.sound hopen).congr rfl rfl rfl, h.owes⟩

/-- Of all moves of an errand only the next cursor that it comes to touches the polls. -/
theorem goOn_cases (hb : b.Proper) (hnumbered : c.Numbered) (now : Nat) (errand : Errand) :
    (c.Steady (c.goOn b now errand).1 ∧ c.Quiet (c.goOn b now errand).1.1) ∨
      ∃ cursor rest, errand = .arm (cursor :: rest) ∧
        (c.goOn b now errand).1 = c.arm ⟨[cursor]⟩ := by
  cases errand with
  | dispatch body =>
    exact .inl ⟨steady_deliver hb c now body, quiet_deliver hb hnumbered now body⟩
  | ask => exact .inl ⟨.refl c, .refl hnumbered⟩
  | renew => exact .inl ⟨.refl c, .refl hnumbered⟩
  | arm cursors =>
    cases cursors with
    | nil => exact .inl ⟨.refl c, .refl hnumbered⟩
    | cons cursor rest => exact .inr ⟨cursor, rest, rfl, startPoll_eq cursor c⟩

theorem Regular.goOn (h : c.Regular) (hb : b.Proper) (now : Nat) (errand : Errand) :
    (c.goOn b now errand).1.1.Regular := by
  rcases goOn_cases hb h.numbered now errand with ⟨-, hquiet⟩ | ⟨cursor, rest, -, harms⟩
  · exact h.quiet hquiet
  · rw [harms]
    exact h.arm _

/-- Whatever an event leaves to be done, what it does at once is steady. -/
theorem steady_undertake (h : c.Regular) (hb : b.Proper) (now : Nat) (e : ClientEvent H) :
    (c.ended now e).Steady (c.undertake b now e).1 := by
  have hundertaken := undertaken h hb now e
  generalize c.undertake b now e = r at hundertaken
  cases hundertaken with
  | whole steady => exact steady
  | sent => exact .aside rfl rfl rfl (List.Subset.refl _) fun _ => rfl
  | answered body poll =>
    rw [ended_poll poll]
    exact .aside rfl rfl rfl (List.subset_append_left _ _) fun _ => rfl
  | waited => exact .aside rfl rfl rfl List.erase_subset fun _ => rfl

theorem Tallies.steady (h : c.Tallies v held) {s : Step H W} (hs : c.Steady s) :
    s.1.Tallies v (heldAfter held s.2) := by
  obtain ⟨rfl, hpaired, hheld⟩ := h
  exact ⟨hs.version, hpaired.of_same (polled_of_pollsIn hs.polls) hs.inFlight, hs.held held hheld⟩

theorem Tallies.arm (h : c.Tallies v held) (cursors : Cursors) :
    (c.arm cursors).1.Tallies v (heldAfter held (c.arm cursors).2) := by
  obtain ⟨rfl, hpaired, hheld⟩ := h
  exact ⟨by rw [core_arm], hpaired.arm cursors, held_arm cursors hheld⟩

theorem Tallies.goOn (h : c.Tallies v held) (hb : b.Proper) (hnumbered : c.Numbered) (now : Nat)
    (errand : Errand) :
    (c.goOn b now errand).1.1.Tallies v (heldAfter held (c.goOn b now errand).1.2) := by
  rcases goOn_cases hb hnumbered now errand with ⟨hsteady, -⟩ | ⟨cursor, rest, -, harms⟩
  · exact h.steady hsteady
  · rw [harms]
    exact h.arm _

/-- Only the next cursor of an errand that arms polling starts a poll. -/
theorem starts_goOn (hb : b.Proper) (hnumbered : c.Numbered) {now : Nat} {errand : Errand}
    {key : Nat} {topic : String} {ts : Int64}
    (started : (key, Purpose.poll topic ts) ∈ (c.goOn b now errand).1.1.posts)
    (fresh : (key, Purpose.poll topic ts) ∉ c.posts) :
    ∃ rest, errand = .arm ((topic, ts) :: rest) := by
  rcases goOn_cases hb hnumbered now errand with ⟨hsteady, -⟩ | ⟨cursor, rest, rfl, harms⟩
  · exact absurd (hsteady.mem_poll_iff.mp started) fresh
  · rw [harms] at started
    have hlisted := (listed_arm started).resolve_left fresh
    exact ⟨rest, by rw [List.mem_singleton.mp hlisted]⟩

theorem keeps_goOn (hb : b.Proper) (hnumbered : c.Numbered) (now : Nat) (errand : Errand)
    {key : Nat} {topic : String} {ts : Int64}
    (underWay : (key, Purpose.poll topic ts) ∈ c.posts) :
    (key, Purpose.poll topic ts) ∈ (c.goOn b now errand).1.1.posts := by
  rcases goOn_cases hb hnumbered now errand with ⟨hsteady, -⟩ | ⟨cursor, rest, -, harms⟩
  · exact hsteady.mem_poll_iff.mpr underWay
  · rw [harms, arm_eq]
    exact List.mem_append_left _ underWay

theorem mem_posts_ended (h : c.Numbered) (now : Nat) (e : ClientEvent H) {post : Nat × Purpose}
    (underWay : post ∈ c.posts) :
    post ∈ (c.ended now e).posts ∨ ∃ result, e = .outcome post.1 result := by
  cases e with
  | outcome key result =>
    by_cases hkey : post.1 = key
    · exact .inr ⟨result, by rw [hkey]⟩
    · left
      have hmem := (Assoc.mem_erase_iff h.distinct).mpr ⟨underWay, hkey⟩
      rw [ended]
      split <;> exact hmem
  | _ => exact .inl underWay

theorem core_absorb (i : Inbound H W) (c : Client H W) : (c.absorb i).1.core = i.core := by
  rw [absorb]
  dsimp only
  split <;> rfl

theorem core_deliver (b : Behaviour H W) (now : Nat) (body : String) (c : Client H W) :
    (c.deliver b now body).1.core =
      if body = "" then c.core else (c.core.onPayload b now body).core := by
  rw [deliver]
  by_cases hempty : body = ""
  · rw [if_pos hempty, if_pos hempty]
  · rw [if_neg hempty, if_neg hempty, core_absorb]

/-! ## What is decided -/

/-- An errand comes to arm polling at most once, and only where it finds that polling goes on. -/
theorem arms_goOn (h : c.Regular) (now : Nat) (errand : Errand) :
    (c.goOn b now errand).2.countP Errand.arms ≤ [errand].countP Errand.arms ∨
      (errand = .ask ∧ c.isClosed = false ∧ c.supervisor.onSocket = false ∧
        (c.goOn b now errand).2 = [.renew]) := by
  cases errand with
  | dispatch body => exact .inl (Nat.le_refl _)
  | renew => exact .inl (Nat.le_refl _)
  | ask =>
    rw [Client.goOn]
    split
    · exact .inl (Nat.le_refl _)
    · rename_i hgoing
      rw [Bool.or_eq_true, not_or, Bool.not_eq_true, Bool.not_eq_true] at hgoing
      exact .inr ⟨rfl, hgoing.2, (h.sound hgoing.2).stopped ▸ hgoing.1, rfl⟩
  | arm cursors =>
    cases cursors with
    | nil => exact .inl (Nat.zero_le _)
    | cons => exact .inl (Nat.le_refl _)

theorem arms_undertake (h : c.Regular) (hb : b.Proper) (now : Nat) (e : ClientEvent H) :
    (c.undertake b now e).2.countP Errand.arms = 0 ∨
      (e = .pump ∧ c.isClosed = false ∧ c.supervisor.onSocket = false ∧
        ∃ m rest, c.core.outbox = m :: rest ∧ m.kind = .subscribe ∧
          (c.undertake b now e).2 = [.arm (m.subscriptions.getD ⟨[]⟩).entries]) := by
  have hundertaken := undertaken h hb now e
  generalize c.undertake b now e = r at hundertaken
  cases hundertaken with
  | sent first kind opened off => exact .inr ⟨rfl, opened, off, _, _, first, kind, rfl⟩
  | _ => exact .inl rfl

end Moves

end Client

namespace Workers
variable {H W : Type} {b : Behaviour H W}

/-! ## Moves -/

theorem run_cons (now : Nat) (move : Move H) (rest : List (Nat × Move H)) (w : Workers H W) :
    w.run b ((now, move) :: rest) =
      (((w.step b now move).1.run b rest).1,
        (w.step b now move).2 ++ ((w.step b now move).1.run b rest).2) :=
  rfl

theorem run_append (moves more : List (Nat × Move H)) (w : Workers H W) :
    w.run b (moves ++ more) =
      (((w.run b moves).1.run b more).1, (w.run b moves).2 ++ ((w.run b moves).1.run b more).2) := by
  induction moves generalizing w with
  | nil => rfl
  | cons first rest ih =>
    obtain ⟨now, move⟩ := first
    simp only [List.cons_append, run_cons, ih, List.append_assoc]

theorem step_event (w : Workers H W) (now : Nat) (e : ClientEvent H) :
    w.step b now (.event e) =
      (⟨(w.client.undertake b now e).1.1, w.errands ++ (w.client.undertake b now e).2⟩,
        (w.client.undertake b now e).1.2) :=
  rfl

theorem step_goOn {w : Workers H W} {place : Nat} {errand : Errand}
    (h : w.errands[place]? = some errand) (now : Nat) :
    w.step b now (.goOn place) =
      (⟨(w.client.goOn b now errand).1.1,
        w.errands.take place ++ (w.client.goOn b now errand).2 ++ w.errands.drop (place + 1)⟩,
        (w.client.goOn b now errand).1.2) := by
  simp only [step, h]

theorem step_goOn_none {w : Workers H W} {place : Nat} (h : w.errands[place]? = none)
    (now : Nat) : w.step b now (.goOn place) = (w, []) := by
  simp only [step, h]

/-- The answer to a poll ends the poll, and is left to be dispatched. -/
theorem step_answered (b : Behaviour H W) {w : Workers H W} {key : Nat} {topic : String}
    {ts : Int64} (h : Assoc.find? key w.client.posts = some (.poll topic ts)) (now : Nat)
    (body : String) :
    w.step b now (.event (.outcome key (.ok body))) =
      (⟨w.client.withoutPoll key topic, w.errands ++ [.dispatch body]⟩, []) := by
  simp only [step_event, Client.undertake, h]
  rfl

theorem step_goOn_first (now : Nat) (errand : Errand) (rest : List Errand) (c : Client H W) :
    (⟨c, errand :: rest⟩ : Workers H W).step b now (.goOn 0) =
      (⟨(c.goOn b now errand).1.1, (c.goOn b now errand).2 ++ rest⟩, (c.goOn b now errand).1.2) :=
  rfl

/-! ## Runs that nobody interrupts -/

/-- The first errand is carried out by so many moves. -/
theorem exists_run_arm (now : Nat) (cursors : List (String × Int64)) (rest : List Errand)
    (c : Client H W) :
    ∃ moves, (⟨c, .arm cursors :: rest⟩ : Workers H W).run b moves =
      (⟨(Client.forEach Client.startPoll cursors c).1, rest⟩,
        (Client.forEach Client.startPoll cursors c).2) := by
  induction cursors generalizing c with
  | nil => exact ⟨[(now, .goOn 0)], rfl⟩
  | cons cursor cursors ih =>
    obtain ⟨moves, hmoves⟩ := ih (c.startPoll cursor).1
    refine ⟨(now, .goOn 0) :: moves, ?_⟩
    rw [run_cons, step_goOn_first, Client.goOn, List.singleton_append, hmoves]
    rfl

theorem exists_run_renew (now : Nat) (rest : List Errand) (c : Client H W) :
    ∃ moves, (⟨c, .renew :: rest⟩ : Workers H W).run b moves =
      (⟨(c.arm c.core.registry.cursors).1, rest⟩, (c.arm c.core.registry.cursors).2) := by
  obtain ⟨moves, hmoves⟩ := exists_run_arm (b := b) now c.core.registry.cursors.entries rest c
  refine ⟨(now, .goOn 0) :: moves, ?_⟩
  rw [run_cons, step_goOn_first, Client.goOn, List.singleton_append, hmoves,
    ← Client.arm_eq_forEach]
  rfl

theorem exists_run_ask (now : Nat) (rest : List Errand) (c : Client H W) :
    ∃ moves, (⟨c, .ask :: rest⟩ : Workers H W).run b moves =
      (⟨c.rearm.1, rest⟩, c.rearm.2) := by
  rw [Client.rearm]
  by_cases hrest : (c.supervisor.polling.stopped || c.isClosed) = true
  · refine ⟨[(now, .goOn 0)], ?_⟩
    rw [run_cons, step_goOn_first, Client.goOn, if_pos hrest, if_pos hrest]
    rfl
  · obtain ⟨moves, hmoves⟩ := exists_run_renew (b := b) now rest c
    refine ⟨(now, .goOn 0) :: moves, ?_⟩
    rw [run_cons, step_goOn_first, Client.goOn, if_neg hrest, if_neg hrest, List.singleton_append,
      hmoves]
    rfl

theorem exists_run_errand (now : Nat) (errand : Errand) (rest : List Errand) (c : Client H W) :
    ∃ moves, (⟨c, errand :: rest⟩ : Workers H W).run b moves =
      (⟨(c.finishErrand b now errand).1, rest⟩, (c.finishErrand b now errand).2) := by
  cases errand with
  | arm cursors => exact exists_run_arm now cursors rest c
  | renew => exact exists_run_renew now rest c
  | ask => exact exists_run_ask now rest c
  | dispatch body =>
    obtain ⟨moves, hmoves⟩ := exists_run_ask (b := b) now rest (c.deliver b now body).1
    refine ⟨(now, .goOn 0) :: moves, ?_⟩
    rw [run_cons, step_goOn_first, Client.goOn, List.singleton_append, hmoves]
    rfl

theorem exists_run_errands (now : Nat) (errands : List Errand) (c : Client H W) :
    ∃ moves, (⟨c, errands⟩ : Workers H W).run b moves =
      (⟨(Client.forEach (Client.finishErrand b now) errands c).1, []⟩,
        (Client.forEach (Client.finishErrand b now) errands c).2) := by
  induction errands generalizing c with
  | nil => exact ⟨[], rfl⟩
  | cons errand rest ih =>
    obtain ⟨moves, hmoves⟩ := exists_run_errand (b := b) now errand rest c
    obtain ⟨later, hlater⟩ := ih (c.finishErrand b now errand).1
    refine ⟨moves ++ later, ?_⟩
    rw [run_append, hmoves, hlater]
    rfl

/-- What a client does that nobody interrupts its workers can do: whatever an event leaves to be
done is done before the next one. -/
theorem exists_run_of_events (b : Behaviour H W) (events : List (Nat × ClientEvent H))
    (c : Client H W) :
    ∃ moves, (⟨c, []⟩ : Workers H W).run b moves =
      (⟨(c.run b events).1, []⟩, (c.run b events).2) := by
  induction events generalizing c with
  | nil => exact ⟨[], rfl⟩
  | cons event rest ih =>
    obtain ⟨now, e⟩ := event
    obtain ⟨moves, hmoves⟩ :=
      exists_run_errands (b := b) now (c.undertake b now e).2 (c.undertake b now e).1.1
    obtain ⟨later, hlater⟩ := ih (c.step b now e).1
    have hevent : (⟨c, []⟩ : Workers H W).run b ((now, .event e) :: moves) =
        (⟨(c.step b now e).1, []⟩, (c.step b now e).2) := by
      rw [run_cons, step_event, List.nil_append, hmoves, Client.step_eq_undertake]
      rfl
    refine ⟨(now, .event e) :: moves ++ later, ?_⟩
    rw [run_append, hevent, hlater]
    rfl

/-! ## What every move keeps -/

/-- The requests held once a move has answered what it answers. -/
def Move.answer (held : List (Nat × String)) : Move H → List (Nat × String)
  | .event e => e.answer held
  | .goOn _ => held

/-- The requests held after a run. -/
def heldAlong (b : Behaviour H W) (w : Workers H W) (held : List (Nat × String)) :
    List (Nat × Move H) → List (Nat × String)
  | [] => held
  | (now, move) :: rest =>
    let s := w.step b now move
    heldAlong b s.1 (heldAfter (move.answer held) s.2) rest

structure Orderly (v : Version) (held : List (Nat × String)) (w : Workers H W) : Prop where
  regular : w.client.Regular
  tallies : w.client.Tallies v held

theorem orderly_start (settings : Settings) (surroundings : W) (since : Nat) :
    (⟨Client.start settings surroundings since, []⟩ : Workers H W).Orderly
      settings.protocol [] :=
  ⟨(Client.inv_start settings surroundings since).regular,
    Client.tallies_start settings surroundings since⟩

section Orderly
variable {v : Version} {held : List (Nat × String)} {w : Workers H W}

theorem Orderly.step (h : w.Orderly v held) (hb : b.Proper) (now : Nat) (move : Move H) :
    (w.step b now move).1.Orderly v (heldAfter (move.answer held) (w.step b now move).2) := by
  cases move with
  | event e =>
    have hcourse := Client.Course.steady (Client.steady_undertake h.regular hb now e)
    exact ⟨h.regular.undertake hb now e, h.tallies.course h.regular.numbered hcourse⟩
  | goOn place =>
    cases herrand : w.errands[place]? with
    | none =>
      rw [step_goOn_none herrand]
      exact h
    | some errand =>
      rw [step_goOn herrand]
      exact ⟨h.regular.goOn hb now errand, h.tallies.goOn hb h.regular.numbered now errand⟩

theorem Orderly.run (h : w.Orderly v held) (hb : b.Proper) (moves : List (Nat × Move H)) :
    (w.run b moves).1.Orderly v (w.heldAlong b held moves) := by
  induction moves generalizing w held with
  | nil => exact h
  | cons first rest ih =>
    obtain ⟨now, move⟩ := first
    exact ih (h.step hb now move)

/-! ## Polls that start and polls that end -/

/-- A poll starts from an errand that comes to its topic, with the cursor of the errand. -/
theorem Orderly.starts (h : w.Orderly v held) (hb : b.Proper) {now : Nat} {move : Move H}
    {key : Nat} {topic : String} {ts : Int64}
    (started : (key, Purpose.poll topic ts) ∈ (w.step b now move).1.client.posts)
    (fresh : (key, Purpose.poll topic ts) ∉ w.client.posts) :
    ∃ place rest, move = .goOn place ∧ w.errands[place]? = some (.arm ((topic, ts) :: rest)) := by
  cases move with
  | event e =>
    exact absurd ((Client.steady_undertake h.regular hb now e).mem_of_ended started) fresh
  | goOn place =>
    cases herrand : w.errands[place]? with
    | none =>
      rw [step_goOn_none herrand] at started
      exact absurd started fresh
    | some errand =>
      rw [step_goOn herrand] at started
      obtain ⟨rest, rfl⟩ := Client.starts_goOn hb h.regular.numbered started fresh
      exact ⟨place, rest, rfl, herrand⟩

/-- A poll is under way until it is answered. -/
theorem Orderly.ends (h : w.Orderly v held) (hb : b.Proper) {now : Nat} {move : Move H}
    {key : Nat} {topic : String} {ts : Int64}
    (underWay : (key, Purpose.poll topic ts) ∈ w.client.posts) :
    (key, Purpose.poll topic ts) ∈ (w.step b now move).1.client.posts ∨
      ∃ result, move = .event (.outcome key result) := by
  cases move with
  | event e =>
    rcases Client.mem_posts_ended h.regular.numbered now e underWay with hmem | ⟨result, rfl⟩
    · exact .inl ((Client.steady_undertake h.regular hb now e).mem_poll_iff.mpr hmem)
    · exact .inr ⟨result, rfl⟩
  | goOn place =>
    left
    cases herrand : w.errands[place]? with
    | none =>
      rw [step_goOn_none herrand]
      exact underWay
    | some errand =>
      rw [step_goOn herrand]
      exact Client.keeps_goOn hb h.regular.numbered now errand underWay

end Orderly

/-! ## Errands -/

/-- How many errands will arm polling. -/
def armings (w : Workers H W) : Nat := w.errands.countP Errand.arms

/-- What decides to arm polling, and the errand that it leaves. -/
inductive Decides (w : Workers H W) : Move H → Errand → Prop
  | sent {m : Message} {rest : List Message} (first : w.client.core.outbox = m :: rest)
      (kind : m.kind = .subscribe) :
      Decides w (.event .pump) (.arm (m.subscriptions.getD ⟨[]⟩).entries)
  | goesOn {place : Nat} (asks : w.errands[place]? = some .ask) : Decides w (.goOn place) .renew

/-- Where the cursors come from that a move leaves to arm polling from. -/
inductive Source (w : Workers H W) : Move H → List (String × Int64) → Prop
  | sent {m : Message} {rest : List Message} (first : w.client.core.outbox = m :: rest)
      (kind : m.kind = .subscribe) : Source w (.event .pump) (m.subscriptions.getD ⟨[]⟩).entries
  | renewed {place : Nat} (renews : w.errands[place]? = some .renew) :
      Source w (.goOn place) w.client.core.registry.cursors.entries
  | rest {place : Nat} {cursor : String × Int64} {cursors : List (String × Int64)}
      (arms : w.errands[place]? = some (.arm (cursor :: cursors))) : Source w (.goOn place) cursors

/-- The errand at a place, between those before it and those after it. -/
theorem errands_eq {w : Workers H W} {place : Nat} {errand : Errand}
    (h : w.errands[place]? = some errand) :
    w.errands = w.errands.take place ++ [errand] ++ w.errands.drop (place + 1) := by
  obtain ⟨hlt, rfl⟩ := List.getElem?_eq_some_iff.mp h
  simp

section Errands
variable {v : Version} {held : List (Nat × String)} {w : Workers H W}

/-- An errand waits until it is gone on with. -/
theorem mem_errands_step (now : Nat) (move : Move H) {errand : Errand} (h : errand ∈ w.errands) :
    errand ∈ (w.step b now move).1.errands ∨
      ∃ place, move = .goOn place ∧ w.errands[place]? = some errand := by
  cases move with
  | event e => exact .inl (List.mem_append_left _ h)
  | goOn place =>
    cases herrand : w.errands[place]? with
    | none =>
      rw [step_goOn_none herrand]
      exact .inl h
    | some found =>
      rw [step_goOn herrand]
      rw [errands_eq herrand, List.mem_append, List.mem_append, List.mem_singleton] at h
      rcases h with (hbefore | rfl) | hafter
      · exact .inl (List.mem_append_left _ (List.mem_append_left _ hbefore))
      · exact .inr ⟨place, rfl, herrand⟩
      · exact .inl (List.mem_append_right _ hafter)

theorem Orderly.source (h : w.Orderly v held) (hb : b.Proper) {now : Nat} {move : Move H}
    {cursors : List (String × Int64)} (left : .arm cursors ∈ (w.step b now move).1.errands) :
    .arm cursors ∈ w.errands ∨ w.Source move cursors := by
  cases move with
  | event e =>
    rw [step_event] at left
    refine (List.mem_append.mp left).imp_right fun hleft => ?_
    rcases Client.arms_undertake h.regular hb now e with
      hnone | ⟨rfl, -, -, m, rest, first, kind, heq⟩
    · exact absurd rfl (List.countP_eq_zero.mp hnone _ hleft)
    · rw [heq, List.mem_singleton] at hleft
      cases hleft
      exact .sent first kind
  | goOn place =>
    cases herrand : w.errands[place]? with
    | none =>
      rw [step_goOn_none herrand] at left
      exact .inl left
    | some errand =>
      rw [step_goOn herrand, List.mem_append, List.mem_append] at left
      rcases left with (hbefore | hleft) | hafter
      · exact .inl (List.mem_of_mem_take hbefore)
      · right
        cases errand with
        | dispatch body => cases List.mem_singleton.mp hleft
        | ask =>
          rw [Client.goOn] at hleft
          split at hleft
          · cases hleft
          · cases List.mem_singleton.mp hleft
        | renew =>
          cases List.mem_singleton.mp hleft
          exact .renewed herrand
        | arm entries =>
          cases entries with
          | nil => cases hleft
          | cons cursor rest =>
            cases List.mem_singleton.mp hleft
            exact .rest herrand
      · exact .inl (List.mem_of_mem_drop hafter)

/-- A move decides to arm polling at most once, and only while the socket is not current. -/
theorem Orderly.decides (h : w.Orderly v held) (hb : b.Proper) (now : Nat) (move : Move H) :
    (w.step b now move).1.armings ≤ w.armings ∨
      ((w.step b now move).1.armings = w.armings + 1 ∧ w.client.isClosed = false ∧
        w.client.supervisor.onSocket = false ∧
        ∃ errand ∈ (w.step b now move).1.errands, w.Decides move errand) := by
  cases move with
  | event e =>
    rw [step_event, armings, armings, List.countP_append]
    rcases Client.arms_undertake h.regular hb now e with
      hnone | ⟨rfl, hopen, hoff, m, rest, first, kind, hleft⟩
    · exact .inl (by omega)
    · rw [hleft]
      refine .inr ⟨rfl, hopen, hoff, _, ?_, .sent first kind⟩
      exact List.mem_append_right _ (List.mem_singleton.mpr rfl)
  | goOn place =>
    cases herrand : w.errands[place]? with
    | none =>
      rw [step_goOn_none herrand]
      exact .inl (Nat.le_refl _)
    | some errand =>
      have hbefore : w.armings = (w.errands.take place).countP Errand.arms +
          [errand].countP Errand.arms + (w.errands.drop (place + 1)).countP Errand.arms := by
        rw [← List.countP_append, ← List.countP_append, ← errands_eq herrand]
        rfl
      rw [step_goOn herrand, hbefore, armings, List.countP_append, List.countP_append]
      rcases Client.arms_goOn (b := b) h.regular now errand with hle | ⟨rfl, hopen, hoff, hleft⟩
      · exact .inl (by omega)
      · rw [hleft]
        refine .inr ⟨?_, hopen, hoff, .renew, by simp, .goesOn herrand⟩
        change _ + 1 + _ = _ + 0 + _ + 1
        omega

end Errands

/-- As long as the socket is current nothing more is decided, and what has been decided before is
all that arms a topic. -/
theorem Orderly.on_socket {v : Version} {held : List (Nat × String)} {w : Workers H W}
    (h : w.Orderly v held) (hb : b.Proper) {moves : List (Nat × Move H)}
    (current : ∀ n < moves.length,
      (w.run b (moves.take n)).1.client.supervisor.current = .socket) :
    (w.run b moves).1.armings ≤ w.armings ∧
      (w.armings = 0 → ∀ key topic ts,
        (key, .poll topic ts) ∈ (w.run b moves).1.client.posts →
          (key, .poll topic ts) ∈ w.client.posts) := by
  induction moves generalizing w held with
  | nil => exact ⟨Nat.le_refl _, fun _ _ _ _ hmem => hmem⟩
  | cons first rest ih =>
    obtain ⟨now, move⟩ := first
    have hon := (Supervisor.current_eq_socket_iff _).mp (current 0 (Nat.zero_lt_succ _))
    have hle : (w.step b now move).1.armings ≤ w.armings := by
      refine (h.decides hb now move).resolve_right ?_
      rintro ⟨-, -, hoff, -⟩
      exact absurd (hon.symm.trans hoff) nofun
    obtain ⟨hrest, hnone⟩ := ih (h.step hb now move)
      fun n hn => current (n + 1) (Nat.succ_lt_succ hn)
    refine ⟨hrest.trans hle, ?_⟩
    intro hzero key topic ts hmem
    have hmid := hnone (by omega) key topic ts hmem
    by_contra hfresh
    obtain ⟨place, left, rfl, herrand⟩ := h.starts hb hmid hfresh
    have harms := List.countP_eq_zero.mp hzero _ (List.mem_of_getElem? herrand)
    exact harms rfl

/-- Whatever the workers do and in whatever order, the requests held are the posts under way, at
most one polls a given topic, and the topics in flight are those that are polled. A poll subscribes
to its own topic alone, from the cursor of the errand that armed the topic, which comes from a
subscribe message or from the registry; it is under way until it is answered, and its answer is
dispatched whatever transport is current. To arm polling is decided only while polling is the
current transport. What has been decided is still done while the socket is current, and nothing
else starts a poll then. -/
theorem one_poll_per_topic (hb : b.Proper) (settings : Settings) (surroundings : W) (since : Nat)
    (moves : List (Nat × Move H)) :
    let first : Workers H W := ⟨Client.start settings surroundings since, []⟩
    let w := (first.run b moves).1
    let c := w.client
    let held := first.heldAlong b [] moves
    (Held settings.protocol held c.posts ∧ Assoc.Distinct held ∧
      c.polled.Nodup ∧ c.supervisor.polling.inFlight = c.polled) ∧
    (∀ now move,
      let v := (w.step b now move).1
      (∀ key topic ts, (key, .poll topic ts) ∈ v.client.posts →
        (key, .poll topic ts) ∉ c.posts → ∃ place rest, move = .goOn place ∧
          w.errands[place]? = some (.arm ((topic, ts) :: rest))) ∧
      (∀ cursors, .arm cursors ∈ v.errands → .arm cursors ∈ w.errands ∨ w.Source move cursors) ∧
      (∀ key topic ts, (key, .poll topic ts) ∈ c.posts →
        (key, .poll topic ts) ∈ v.client.posts ∨
          ∃ result, move = .event (.outcome key result)) ∧
      (∀ errand ∈ w.errands, errand ∈ v.errands ∨
        ∃ place, move = .goOn place ∧ w.errands[place]? = some errand) ∧
      (v.armings ≤ w.armings ∨
        (v.armings = w.armings + 1 ∧ c.supervisor.current = .polling ∧
          ∃ errand ∈ v.errands, w.Decides move errand))) ∧
    (∀ more, (∀ n < more.length,
        (w.run b (more.take n)).1.client.supervisor.current = .socket) →
      let v := (w.run b more).1
      v.armings ≤ w.armings ∧
        (w.armings = 0 → ∀ key topic ts, (key, .poll topic ts) ∈ v.client.posts →
          (key, .poll topic ts) ∈ c.posts)) ∧
    (∀ now key topic ts body, (key, .poll topic ts) ∈ c.posts →
      let v := (w.step b now (.event (.outcome key (.ok body)))).1
      v.client.polled = c.polled.erase topic ∧ v.errands = w.errands ++ [.dispatch body]) ∧
    (∀ now place body, w.errands[place]? = some (.dispatch body) →
      (w.step b now (.goOn place)).1.client.core =
        if body = "" then c.core else (c.core.onPayload b now body).core) := by
  intro first w c held
  have horderly : w.Orderly settings.protocol held :=
    (orderly_start settings surroundings since).run hb moves
  have htallies := horderly.tallies
  have hnumbered := horderly.regular.numbered
  refine ⟨⟨htallies.held, ?_, htallies.paired.once, htallies.paired.inFlight.symm⟩, ?_, ?_, ?_, ?_⟩
  · rw [Assoc.Distinct, htallies.held.keys]
    exact hnumbered.distinct
  · intro now move v
    refine ⟨fun _ _ _ => horderly.starts hb, fun _ => horderly.source hb,
      fun _ _ _ => horderly.ends hb, fun _ => mem_errands_step now move, ?_⟩
    refine (horderly.decides hb now move).imp_right ?_
    rintro ⟨hmore, -, hoff, hdecides⟩
    exact ⟨hmore, by simp [Supervisor.current, c, hoff], hdecides⟩
  · exact fun more current => horderly.on_socket hb current
  · intro now key topic ts body hmem v
    have hfound := Assoc.find?_of_mem hnumbered.distinct hmem
    have hanswered : v = ⟨c.withoutPoll key topic, w.errands ++ [.dispatch body]⟩ :=
      congrArg Prod.fst (step_answered b hfound now body)
    rw [hanswered]
    exact ⟨Client.polled_withoutPoll htallies.paired hfound, rfl⟩
  · intro now place body herrand
    rw [step_goOn herrand]
    exact Client.core_deliver b now body c

-- Runs are compared as they stand; only `decide` carries them out.
open Scenario in
attribute [local irreducible] run in
/-- Two workers arm the same topic, and one of them another one too. The socket takes over before
they are done. Later a poll is answered, which is dispatched and followed by nothing. -/
theorem one_poll_per_topic_takeover :
    let first : Workers Listener _ := ⟨Client.start {} {} 0, []⟩
    let moves : List (Nat × Move Listener) :=
      [(0, .event (.subscribe "a" { name := "x", topic := "a" })), (0, .event .pump),
       (0, .event (.subscribe "b" { name := "y", topic := "b" })), (0, .event .pump),
       (0, .goOn 1), (0, .goOn 0), (0, .goOn 0), (0, .event (.socket .attempt)),
       (1, .event (.socket .dialed)), (2, .event (.socket (.payload true))), (2, .event .look),
       (2, .goOn 0), (2, .goOn 0)]
    let w := (first.run listen moves).1
    let body := "\x7b\"u\":\"a\"\x7d\n1"
    let answer : Move Listener := .event (.outcome 1 (.ok body))
    let v := (w.step listen 3 answer).1
    let u := (w.run listen [(3, answer), (3, .goOn 0), (4, .goOn 0)]).1
    w.client.polled = ["a", "b"] ∧ w.client.supervisor.polling.inFlight = w.client.polled ∧
      Held .v2 (first.heldAlong listen [] moves) w.client.posts ∧
      v.client.polled = ["b"] ∧ v.errands = [.dispatch body] ∧
      (∀ key topic ts, (key, .poll topic ts) ∈ u.client.posts →
        (key, .poll topic ts) ∈ w.client.posts) ∧ u.errands = [] := by
  intro first moves w body answer v u
  obtain ⟨⟨hheld, -, -, hflight⟩, -, hsocket, hanswered, -⟩ :=
    one_poll_per_topic listen_proper {} {} 0 moves
  have hpolled : w.client.polled = ["a", "b"] := by decide +kernel
  have herrands : w.errands = [] := by decide +kernel
  have hpoll : (1, Purpose.poll "a" 0) ∈ w.client.posts := by decide +kernel
  obtain ⟨hleft, hdispatch⟩ := hanswered 3 1 "a" 0 body hpoll
  obtain ⟨-, hnone⟩ := hsocket [(3, answer), (3, .goOn 0), (4, .goOn 0)] (by decide +kernel)
  refine ⟨hpolled, hflight, hheld, ?_, ?_, hnone (by decide +kernel), by decide +kernel⟩
  · exact hleft.trans (congrArg (List.erase · "a") hpolled)
  · exact hdispatch.trans (congrArg (· ++ [Errand.dispatch body]) herrands)

open Scenario in
/-- A worker takes the subscriptions for polling. Before it arms them the socket takes over; it
does not ask again, and a poll starts. -/
theorem armed_on_socket :
    let w := ((⟨Client.start {} {} 0, []⟩ : Workers Listener _).run listen
      [(0, .event (.subscribe "a" { name := "x", topic := "a" })), (0, .event .pump),
       (0, .event (.socket .attempt)), (1, .event (.socket .dialed)),
       (2, .event (.socket (.payload true))), (2, .event .look)]).1
    let v := (w.step listen 2 (.goOn 0)).1
    w.client.supervisor.current = .socket ∧ w.client.polled = [] ∧
      v.client.supervisor.current = .socket ∧ v.client.polled = ["a"] := by
  decide +kernel

end Workers

end TopicClient
