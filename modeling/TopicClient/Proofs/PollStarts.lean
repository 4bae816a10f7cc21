import TopicClient.Proofs.HeldRequests

/-!
# How polls start

On an event the post that it ends goes first, then all is steady, and at last polling may
be armed: by a subscribe message that goes out to polling, or where polling goes on after
an answered poll or a delay. From this course of events follows what holds of the polls of
a whole run.
-/

namespace TopicClient

namespace Polling

theorem arm_sublist (cursors : List (String × Int64)) (p : Polling) :
    List.Sublist (p.arm cursors).1 cursors := by
  induction cursors generalizing p with
  | nil => exact .slnil
  | cons e rest ih =>
    obtain ⟨topic, ts⟩ := e
    by_cases hmem : topic ∈ p.inFlight
    · simp only [arm, if_pos hmem]
      exact (ih p).cons _
    · simp only [arm, if_neg hmem]
      exact (ih _).cons_cons _

end Polling

theorem mem_pollPosts {last key : Nat} {cursors : List (String × Int64)} {topic : String}
    {ts : Int64} (h : (key, Purpose.poll topic ts) ∈ pollPosts last cursors) :
    (topic, ts) ∈ cursors := by
  induction cursors generalizing last with
  | nil => cases h
  | cons e rest ih =>
    obtain ⟨first, cursor⟩ := e
    rcases List.mem_cons.mp h with heq | hrest
    · simp only [Prod.mk.injEq, Purpose.poll.injEq] at heq
      obtain ⟨-, rfl, rfl⟩ := heq
      exact List.mem_cons_self
    · exact List.mem_cons_of_mem _ (ih hrest)

/-- The requests held once an event has answered what it answers. -/
def ClientEvent.answer {H : Type} (held : List (Nat × String)) :
    ClientEvent H → List (Nat × String)
  | .outcome key _ => Assoc.erase key held
  | _ => held

namespace Client
variable {H W : Type}

/-! ## Arming -/

theorem held_forEach_poll (cursors : List (String × Int64)) {c : Client H W}
    {held : List (Nat × String)} (h : Held c.core.version held c.posts) :
    Held c.core.version (heldAfter held (forEach poll cursors c).2)
      (forEach poll cursors c).1.posts := by
  induction cursors generalizing c held with
  | nil => exact h
  | cons e rest ih =>
    have hposted : Held (c.poll e).1.core.version (heldAfter held (c.poll e).2)
        (c.poll e).1.posts := h.posted _ rfl
    simp only [forEach, Step.andThen, heldAfter_append]
    exact ih hposted

theorem held_arm (cursors : Cursors) {c : Client H W} {held : List (Nat × String)}
    (h : Held c.core.version held c.posts) :
    Held c.core.version (heldAfter held (c.arm cursors).2) (c.arm cursors).1.posts :=
  held_forEach_poll (c.supervisor.polling.arm cursors.entries).1
    (c := c.withPolling fun _ => (c.supervisor.polling.arm cursors.entries).2) h

/-- A poll that starts has been listed. -/
theorem listed_arm {cursors : Cursors} {c : Client H W} {key : Nat} {topic : String} {ts : Int64}
    (h : (key, Purpose.poll topic ts) ∈ (c.arm cursors).1.posts) :
    (key, Purpose.poll topic ts) ∈ c.posts ∨ (topic, ts) ∈ cursors.entries := by
  rw [arm_eq] at h
  refine (List.mem_append.mp h).imp_right ?_
  exact fun hmem => (Polling.arm_sublist _ _).subset (mem_pollPosts hmem)

/-! ## The course of an event -/

/-- The delay that the end of a poll leaves behind. -/
def delay? (now : Nat) (c : Client H W) : Except TransportError String → Option Nat
  | .ok _ => none
  | .error e =>
    if e.isClientError || c.isClosed then none
    else some (now + c.settings.polling.retryDelayMs.toNat)

/-- A client whose post has ended, before anything comes of it. -/
def ended (now : Nat) (c : Client H W) : ClientEvent H → Client H W
  | .outcome key result =>
    match Assoc.find? key c.posts with
    | some (.poll topic _) =>
      { c.withoutPoll key topic with retries := c.retries ++ (c.delay? now result).toList }
    | _ => { c with posts := Assoc.erase key c.posts }
  | _ => c

/-- What polling is armed from on an event that leads from `c` to `d`. -/
inductive Arms (now : Nat) (c d : Client H W) : ClientEvent H → Cursors → Prop
  | sent {m : Message} {rest : List Message} (first : c.core.outbox = m :: rest)
      (kind : m.kind = .subscribe) : Arms now c d .pump (m.subscriptions.getD ⟨[]⟩)
  | answered {key : Nat} {topic : String} {ts : Int64} (body : String)
      (poll : Assoc.find? key c.posts = some (.poll topic ts)) :
      Arms now c d (.outcome key (.ok body)) d.core.registry.cursors
  | waited {deadline : Nat} (running : deadline ∈ c.retries) (due : deadline ≤ now) :
      Arms now c d .retry d.core.registry.cursors

/-- The course of an event that leads from `c` to `s`. Polling is armed only while it is
the current transport of an open client. -/
inductive Course (now : Nat) (c : Client H W) (e : ClientEvent H) : Step H W → Prop
  | steady {s : Step H W} (steady : (c.ended now e).Steady s) : Course now c e s
  | armed {s : Step H W} {cursors : Cursors} (steady : (c.ended now e).Steady s)
      (arms : Arms now c (s.andThen (arm cursors)).1 e cursors) (opened : c.isClosed = false)
      (before : c.supervisor.onSocket = false) (after : s.1.supervisor.onSocket = false) :
      Course now c e (s.andThen (arm cursors))

/-- Polling goes on only if it is the current transport of an open client. -/
theorem rearm_cases {c : Client H W} (hsound : c.isClosed = false → c.Sound) :
    c.rearm = (c, []) ∨
      (c.rearm = c.arm c.core.registry.cursors ∧ c.isClosed = false ∧
        c.supervisor.onSocket = false) := by
  rw [rearm]
  by_cases hrest : (c.supervisor.polling.stopped || c.isClosed) = true
  · exact .inl (if_pos hrest)
  · rw [if_neg hrest]
    rw [Bool.or_eq_true, not_or] at hrest
    have hopen : c.isClosed = false := by simpa using hrest.2
    refine .inr ⟨rfl, hopen, ?_⟩
    rw [← (hsound hopen).stopped]
    simpa using hrest.1

theorem core_arm (cursors : Cursors) (c : Client H W) : (c.arm cursors).1.core = c.core := by
  rw [arm_eq]

/-- Where polling may go on after a steady step. -/
theorem course_rearm {c : Client H W} {now : Nat} {e : ClientEvent H} {s : Step H W}
    (steady : (c.ended now e).Steady s) (hsound : s.1.isClosed = false → s.1.Sound)
    (arms : ∀ d : Client H W, Arms now c d e d.core.registry.cursors)
    (before : s.1.isClosed = false →
      c.isClosed = false ∧ s.1.supervisor.onSocket = c.supervisor.onSocket) :
    Course now c e (s.andThen rearm) := by
  rcases rearm_cases hsound with heq | ⟨heq, hopen, hoff⟩
  · have hstays : s.andThen rearm = s := by simp [Step.andThen, heq]
    rw [hstays]
    exact .steady steady
  · have hgoes : s.andThen rearm = s.andThen (arm s.1.core.registry.cursors) := by
      simp [Step.andThen, heq]
    obtain ⟨hopened, honSocket⟩ := before hopen
    rw [hgoes]
    refine .armed steady ?_ hopened (honSocket.symm.trans hoff) hoff
    have harms := arms (s.andThen (arm s.1.core.registry.cursors)).1
    simpa only [Step.andThen, core_arm] using harms

theorem course_retry {c : Client H W} (hsound : c.isClosed = false → c.Sound) (now : Nat) :
    Course now c .retry (c.retry now) := by
  rw [retry]
  cases hfound : c.retries.find? (· ≤ now) with
  | none => exact .steady (.refl c)
  | some deadline =>
    have hdue : deadline ≤ now := by simpa using List.find?_some hfound
    have hsteady : c.Steady ({ c with retries := c.retries.erase deadline }, []) :=
      .aside rfl rfl rfl List.erase_subset fun _ => rfl
    exact course_rearm (e := .retry) hsteady (fun hopen => (hsound hopen).congr rfl rfl rfl)
      (fun d => .waited (List.mem_of_find?_eq_some hfound) hdue) (fun hopen => ⟨hopen, rfl⟩)

/-- Of all that goes out of the outbox only a subscribe message arms polling, and only while
the socket is not current. -/
theorem course_pump {c : Client H W} (hnumbered : c.Numbered)
    (hsound : c.isClosed = false → c.Sound) (now : Nat) : Course now c .pump (c.pump now) := by
  rw [pump]
  by_cases hclosed : c.isClosed = true
  · rw [if_pos hclosed]
    exact .steady (.refl c)
  rw [if_neg hclosed]
  have hopen : c.isClosed = false := by simpa using hclosed
  cases hout : c.core.outbox with
  | nil => exact .steady (.refl c)
  | cons m rest =>
    have hrest := hnumbered.withOutbox rest
    dsimp only
    split
    · have hsent := steady_onSocket hrest now (.enqueue ⟨none, c.pack m⟩)
      exact .steady (hsent.of_same rfl rfl rfl rfl)
    · rename_i hsocket
      cases hkind : m.kind with
      | subscribe =>
        have hemptied : c.Steady (c.withOutbox rest, []) :=
          .aside rfl rfl rfl (List.Subset.refl _) fun _ => rfl
        have hoff : c.supervisor.onSocket = false := by
          by_contra hon
          have hon : c.supervisor.onSocket = true := by simpa using hon
          have hhas := (hsound hopen).hasSocket.symm.trans ((hsound hopen).onSocket hon)
          exact hsocket (by simp [hhas, hon])
        exact .armed (s := (c.withOutbox rest, [])) hemptied (.sent hout hkind) hopen hoff hoff
      | _ =>
        have hkind' : m.kind ≠ .subscribe := by simp [hkind]
        exact .steady ((steady_post (c.withOutbox rest) rfl hkind').of_same rfl rfl rfl rfl)

theorem ended_poll {c : Client H W} {key : Nat} {topic : String} {ts : Int64}
    (hfound : Assoc.find? key c.posts = some (.poll topic ts)) (now : Nat)
    (result : Except TransportError String) :
    c.ended now (.outcome key result) =
      { c.withoutPoll key topic with
        retries := c.retries ++ (c.delay? now result).toList } := by
  simp only [ended, hfound]

theorem ended_other {c : Client H W} {key : Nat} {purpose : Purpose}
    (hfound : Assoc.find? key c.posts = some purpose) (hpurpose : purpose.topic? = none)
    (now : Nat) (result : Except TransportError String) :
    c.ended now (.outcome key result) = { c with posts := Assoc.erase key c.posts } := by
  simp only [ended, hfound]
  cases purpose with
  | poll topic ts => cases hpurpose
  | _ => rfl

section PollEnds
variable {c : Client H W} {key : Nat} {topic : String} {ts : Int64}

theorem course_answered {b : Behaviour H W} (hb : b.Proper) (hnumbered : c.Numbered)
    (hsound : c.isClosed = false → c.Sound)
    (hfound : Assoc.find? key c.posts = some (.poll topic ts)) (now : Nat) (body : String) :
    Course now c (.outcome key (.ok body))
      (((c.withoutPoll key topic).deliver b now body).andThen rearm) := by
  have hsteady := steady_deliver hb (c.withoutPoll key topic) now body
  have hquiet := quiet_deliver hb (hnumbered.withoutPoll key topic) now body
  refine course_rearm ?_ ?_ (fun d => .answered body hfound) ?_
  · rw [ended_poll hfound]
    exact hsteady.of_same rfl rfl rfl (List.append_nil _).symm
  · intro hopen
    exact ((hsound (hquiet.isClosed hopen)).withoutPoll hfound).quiet hquiet hopen
  · intro hopen
    exact ⟨hquiet.isClosed hopen, by rw [hquiet.supervisor hopen]; rfl⟩

theorem outcome_answered (b : Behaviour H W)
    (hfound : Assoc.find? key c.posts = some (.poll topic ts)) (now : Nat) (body : String) :
    c.outcome b now key (.ok body) =
      ((c.withoutPoll key topic).deliver b now body).andThen rearm := by
  simp only [outcome, hfound]
  rfl

/-- A poll that fails starts nothing. -/
theorem outcome_failed (b : Behaviour H W)
    (hfound : Assoc.find? key c.posts = some (.poll topic ts)) (now : Nat) (e : TransportError) :
    c.outcome b now key (.error e) = (c.ended now (.outcome key (.error e)), []) := by
  have hidle : { c.withoutPoll key topic with retries := c.retries ++ [] } =
      c.withoutPoll key topic := by rw [List.append_nil]; rfl
  rw [ended_poll hfound, delay?]
  simp only [outcome, hfound, pollOutcome, Polling.next]
  by_cases hclient : e.isClientError = true
  · simp only [hclient, if_true, Bool.true_or, Option.toList_none, hidle]
    rfl
  · by_cases hclosed : c.isClosed = true
    · have hclosed' : (c.withoutPoll key topic).isClosed = true := hclosed
      simp only [hclient, hclosed, if_true, Bool.or_true, Option.toList_none, hidle]
      exact if_pos hclosed'
    · simp only [hclient, hclosed, Bool.or_false]
      exact if_neg hclosed

end PollEnds

theorem course_outcome {b : Behaviour H W} (hb : b.Proper) {c : Client H W}
    (hnumbered : c.Numbered) (hsound : c.isClosed = false → c.Sound) (now key : Nat)
    (result : Except TransportError String) :
    Course now c (.outcome key result) (c.outcome b now key result) := by
  cases hfound : Assoc.find? key c.posts with
  | none =>
    have herase := Assoc.erase_of_not_mem (Assoc.find?_eq_none_iff.mp hfound)
    have hended : c.ended now (.outcome key result) = c := by simp only [ended, hfound, herase]
    have hstays : c.outcome b now key result = (c, []) := by simp only [outcome, hfound]
    rw [hstays]
    refine .steady ?_
    rw [hended]
    exact .refl c
  | some purpose =>
    cases purpose with
    | poll topic ts =>
      cases result with
      | ok body =>
        rw [outcome_answered b hfound]
        exact course_answered hb hnumbered hsound hfound now body
      | error e =>
        rw [outcome_failed b hfound]
        exact .steady (.refl _)
    | call number =>
      have herase := quiet_erasePost hnumbered (topic?_of_find? hnumbered hfound rfl)
      simp only [outcome, hfound]
      refine .steady ?_
      rw [ended_other hfound rfl]
      exact steady_callOutcome hb herase.numbered now number result
    | besteffort =>
      simp only [outcome, hfound]
      refine .steady ?_
      rw [ended_other hfound rfl]
      cases result with
      | ok body => exact steady_deliver hb _ now body
      | error e => exact .refl _

theorem course_step {b : Behaviour H W} (hb : b.Proper) {c : Client H W}
    (hnumbered : c.Numbered) (hsound : c.isClosed = false → c.Sound) (now : Nat)
    (e : ClientEvent H) : Course now c e (c.step b now e) := by
  cases e with
  | subscribe topic handler =>
    exact .steady (steady_absorb (Core.moves_subscribe hb topic handler c.core))
  | unsubscribe topic id =>
    exact .steady (.aside rfl rfl rfl (List.Subset.refl _) fun _ => rfl)
  | request uri payload reported =>
    exact .steady (steady_request hnumbered now uri payload reported)
  | describe metadata => exact .steady (steady_describe hnumbered now metadata)
  | close => exact .steady (.aside rfl rfl rfl (List.nil_subset _) fun _ => rfl)
  | pump => exact course_pump hnumbered hsound now
  | look => exact .steady (steady_look c)
  | payload text => exact .steady (steady_payload hb hnumbered now text)
  | socket e => exact .steady (steady_onSocket hnumbered now e)
  | outcome key result => exact course_outcome hb hnumbered hsound now key result
  | retry => exact course_retry hsound now
  | expire call => exact .steady (steady_expire hnumbered now call)
  | collect call => exact .steady (steady_collect hnumbered call)

/-! ## What follows from the course -/

theorem core_ended (now : Nat) (c : Client H W) (e : ClientEvent H) :
    (c.ended now e).core = c.core := by
  cases e with
  | outcome key result =>
    rw [ended]
    split <;> rfl
  | _ => rfl

theorem posts_ended_sublist (now : Nat) (c : Client H W) (e : ClientEvent H) :
    List.Sublist (c.ended now e).posts c.posts := by
  cases e with
  | outcome key result =>
    rw [ended]
    split <;> exact Assoc.erase_sublist key c.posts
  | _ => exact List.Sublist.refl _

theorem held_ended {v : Version} {c : Client H W} {held : List (Nat × String)}
    (h : Held v held c.posts) (now : Nat) (e : ClientEvent H) :
    Held v (e.answer held) (c.ended now e).posts := by
  cases e with
  | outcome key result =>
    rw [ended]
    split <;> exact h.erase key
  | _ => exact h

/-- An event ends one poll or none. -/
theorem ended_cases {c : Client H W} (hnumbered : c.Numbered) (now : Nat) (e : ClientEvent H) :
    (∃ key result topic ts, e = .outcome key result ∧
      Assoc.find? key c.posts = some (.poll topic ts)) ∨
    (pollsIn (c.ended now e).posts = pollsIn c.posts ∧
      (c.ended now e).supervisor = c.supervisor ∧ (c.ended now e).retries = c.retries) := by
  cases e with
  | outcome key result =>
    cases hfound : Assoc.find? key c.posts with
    | none =>
      right
      rw [ended, hfound, Assoc.erase_of_not_mem (Assoc.find?_eq_none_iff.mp hfound)]
      exact ⟨rfl, rfl, rfl⟩
    | some purpose =>
      by_cases hpurpose : purpose.topic? = none
      · right
        rw [ended_other hfound hpurpose]
        exact ⟨pollsIn_erase (topic?_of_find? hnumbered hfound hpurpose), rfl, rfl⟩
      · cases purpose with
        | poll topic ts => exact .inl ⟨key, result, topic, ts, rfl, hfound⟩
        | _ => exact absurd rfl hpurpose
  | _ => exact .inr ⟨rfl, rfl, rfl⟩

theorem polled_of_pollsIn {c d : Client H W} (h : pollsIn d.posts = pollsIn c.posts) :
    d.polled = c.polled := by
  rw [polled_eq, polled_eq, ← polledBy_pollsIn, h, polledBy_pollsIn]

theorem Paired.of_same {c d : Client H W} (hc : c.Paired) (hpolled : d.polled = c.polled)
    (hflight : d.supervisor.polling.inFlight = c.supervisor.polling.inFlight) : d.Paired where
  inFlight := by rw [hpolled, hflight, hc.inFlight]
  once := by
    rw [hpolled]
    exact hc.once

theorem Paired.ended {c : Client H W} (hc : c.Paired) (hnumbered : c.Numbered) (now : Nat)
    (e : ClientEvent H) : (c.ended now e).Paired := by
  rcases ended_cases hnumbered now e with
    ⟨key, result, topic, ts, rfl, hfound⟩ | ⟨hpolls, hsupervisor, -⟩
  · have hpolled := polled_withoutPoll hc hfound
    rw [ended_poll hfound]
    constructor
    · exact hpolled.trans (congrArg (List.erase · topic) hc.inFlight)
    · exact hpolled ▸ hc.once.erase topic
  · exact hc.of_same (polled_of_pollsIn hpolls) (by rw [hsupervisor])

theorem Steady.mem_poll_iff {c : Client H W} {s : Step H W} (h : c.Steady s) {key : Nat}
    {topic : String} {ts : Int64} :
    (key, Purpose.poll topic ts) ∈ s.1.posts ↔ (key, Purpose.poll topic ts) ∈ c.posts := by
  rw [← mem_pollsIn, h.polls, mem_pollsIn]

/-- After the end of a post no poll is new if all is steady. -/
theorem Steady.mem_of_ended {now : Nat} {c : Client H W} {e : ClientEvent H} {s : Step H W}
    (h : (c.ended now e).Steady s) {key : Nat} {topic : String} {ts : Int64}
    (hmem : (key, Purpose.poll topic ts) ∈ s.1.posts) :
    (key, Purpose.poll topic ts) ∈ c.posts :=
  (posts_ended_sublist now c e).subset (h.mem_poll_iff.mp hmem)

namespace Course
variable {now : Nat} {c : Client H W} {e : ClientEvent H} {s : Step H W}

theorem version (h : Course now c e s) : s.1.core.version = c.core.version := by
  cases h with
  | steady steady => rw [steady.version, core_ended]
  | armed steady => rw [Step.andThen, core_arm, steady.version, core_ended]

theorem paired (h : Course now c e s) (hc : c.Paired) (hnumbered : c.Numbered) :
    s.1.Paired := by
  have hended := hc.ended hnumbered now e
  cases h with
  | steady steady => exact hended.of_same (polled_of_pollsIn steady.polls) steady.inFlight
  | @armed s cursors steady =>
    exact (hended.of_same (polled_of_pollsIn steady.polls) steady.inFlight).arm cursors

theorem held (h : Course now c e s) {held : List (Nat × String)}
    (hheld : Held c.core.version held c.posts) :
    Held c.core.version (heldAfter (e.answer held) s.2) s.1.posts := by
  have hended := held_ended hheld now e
  rw [← core_ended now c e] at hended ⊢
  cases h with
  | steady steady => exact steady.held _ hended
  | @armed s cursors steady =>
    have hmid := steady.held _ hended
    rw [← steady.version] at hmid ⊢
    simpa only [Step.andThen, heldAfter_append] using held_arm cursors hmid

/-- Only what polling is armed from starts. -/
theorem starts (h : Course now c e s) {key : Nat} {topic : String} {ts : Int64}
    (started : (key, Purpose.poll topic ts) ∈ s.1.posts)
    (fresh : (key, Purpose.poll topic ts) ∉ c.posts) :
    (∃ cursors, Arms now c s.1 e cursors ∧ (topic, ts) ∈ cursors.entries) ∧
      c.isClosed = false ∧ c.supervisor.onSocket = false ∧ s.1.supervisor.onSocket = false := by
  cases h with
  | steady steady => exact absurd (steady.mem_of_ended started) fresh
  | @armed s cursors steady arms opened before after =>
    have hlisted := (listed_arm started).resolve_left fun hmem =>
      fresh (steady.mem_of_ended hmem)
    refine ⟨⟨cursors, arms, hlisted⟩, opened, before, ?_⟩
    rw [Step.andThen, arm_eq]
    exact after

/-- Retry delays come from polls that end. -/
theorem retries (h : Course now c e s) : s.1.retries ⊆ (c.ended now e).retries := by
  cases h with
  | steady steady => exact steady.retries
  | armed steady =>
    rw [Step.andThen, arm_eq]
    exact steady.retries

end Course

/-! ## Runs -/

/-- The requests held after a run. -/
def heldAlong (b : Behaviour H W) (c : Client H W) (held : List (Nat × String)) :
    List (Nat × ClientEvent H) → List (Nat × String)
  | [] => held
  | (now, e) :: rest =>
    let s := c.step b now e
    heldAlong b s.1 (heldAfter (e.answer held) s.2) rest

/-- What holds of polls all along: the topics in flight are those that have a poll, one
each, and what is held are the posts under way. -/
structure Tallies (v : Version) (held : List (Nat × String)) (c : Client H W) : Prop where
  version : c.core.version = v
  paired : c.Paired
  held : Held v held c.posts

section Runs
variable {b : Behaviour H W} {v : Version} {c : Client H W} {l : Ledger}
  {held : List (Nat × String)}

theorem Inv.course (h : c.Inv l) (hb : b.Proper) (now : Nat) (e : ClientEvent H) :
    Course now c e (c.step b now e) :=
  course_step hb h.numbered (fun hopen => (h.alive hopen).sound) now e

theorem Tallies.course {now : Nat} {e : ClientEvent H} {s : Step H W} (h : c.Tallies v held)
    (hnumbered : c.Numbered) (hcourse : Course now c e s) :
    s.1.Tallies v (heldAfter (e.answer held) s.2) := by
  obtain ⟨rfl, hpaired, hheld⟩ := h
  exact ⟨hcourse.version, hcourse.paired hpaired hnumbered, hcourse.held hheld⟩

theorem Tallies.step (h : c.Tallies v held) (hinv : c.Inv l) (hb : b.Proper) (now : Nat)
    (e : ClientEvent H) :
    (c.step b now e).1.Tallies v (heldAfter (e.answer held) (c.step b now e).2) :=
  h.course hinv.numbered (hinv.course hb now e)

theorem Tallies.run (h : c.Tallies v held) (hinv : c.Inv l) (hb : b.Proper)
    (events : List (Nat × ClientEvent H)) :
    (c.run b events).1.Tallies v (heldAlong b c held events) := by
  induction events generalizing c l held with
  | nil => exact h
  | cons e rest ih =>
    obtain ⟨now, e⟩ := e
    exact ih (h.step hinv hb now e) (hinv.step hb now e)

theorem tallies_start (settings : Settings) (surroundings : W) (now : Nat) :
    (start (H := H) settings surroundings now).Tallies settings.protocol [] :=
  ⟨rfl, ⟨rfl, List.nodup_nil⟩, .nil⟩

end Runs

end Client

end TopicClient
