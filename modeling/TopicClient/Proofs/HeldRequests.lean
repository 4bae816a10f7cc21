import TopicClient.Proofs.Carriers

/-!
# Held requests

The server holds a request from the moment it is posted until it is answered or
withdrawn. What it holds are the posts of the client, in the same order, and the text of
each tells what it is for. Most of what a client does is steady: other requests come and
go, but the polls stay what they are.
-/

namespace TopicClient

/-- The requests held, with their numbers, after an effect. -/
def ClientEffect.hold (held : List (Nat × String)) : ClientEffect → List (Nat × String)
  | .posted key text => held ++ [(key, text)]
  | .withdrew key => Assoc.erase key held
  | _ => held

def heldAfter (held : List (Nat × String)) (effects : List ClientEffect) : List (Nat × String) :=
  effects.foldl ClientEffect.hold held

@[simp] theorem heldAfter_append (held : List (Nat × String)) (effects more : List ClientEffect) :
    heldAfter held (effects ++ more) = heldAfter (heldAfter held effects) more :=
  List.foldl_append

/-- Effects that are neither posts nor withdrawals. -/
theorem heldAfter_silent {effects : List ClientEffect}
    (h : ∀ e ∈ effects, ∀ held, e.hold held = held) (held : List (Nat × String)) :
    heldAfter held effects = held := by
  induction effects with
  | nil => rfl
  | cons e rest ih =>
    have hrest := ih fun e he => h e (List.mem_cons_of_mem _ he)
    rw [heldAfter, List.foldl_cons, h e List.mem_cons_self]
    exact hrest

/-- What the text of a request is: a poll subscribes to its own topic from its own
cursor, and nothing else subscribes. -/
def Purpose.Reads (v : Version) (text : String) : Purpose → Prop
  | .poll topic ts => text = Wire.pack v (Polling.request topic ts)
  | _ => ∃ m : Message, m.kind ≠ .subscribe ∧ text = Wire.pack v m

/-- The requests held are the posts under way. -/
def Held (v : Version) (held : List (Nat × String)) (posts : List (Nat × Purpose)) : Prop :=
  List.Forall₂ (fun request post => request.1 = post.1 ∧ post.2.Reads v request.2) held posts

namespace Held
variable {v : Version} {held : List (Nat × String)} {posts : List (Nat × Purpose)}

theorem posted (h : Held v held posts) (key : Nat) {text : String} {purpose : Purpose}
    (reads : purpose.Reads v text) :
    Held v (held ++ [(key, text)]) (posts ++ [(key, purpose)]) :=
  List.rel_append h (.cons ⟨rfl, reads⟩ .nil)

theorem erase (h : Held v held posts) (key : Nat) :
    Held v (Assoc.erase key held) (Assoc.erase key posts) := by
  induction h with
  | nil => exact .nil
  | @cons request post _ _ hfirst hrest ih =>
    obtain ⟨k, text⟩ := request
    obtain ⟨k', purpose⟩ := post
    obtain ⟨rfl, reads⟩ := hfirst
    by_cases hk : k = key
    · rw [Assoc.erase, Assoc.erase, if_pos hk, if_pos hk]
      exact hrest
    · rw [Assoc.erase, Assoc.erase, if_neg hk, if_neg hk]
      exact .cons ⟨rfl, reads⟩ ih

theorem keys (h : Held v held posts) : Assoc.keys held = Assoc.keys posts := by
  induction h with
  | nil => rfl
  | cons hfirst _ ih => rw [Assoc.keys_cons, Assoc.keys_cons, hfirst.1, ih]

end Held

namespace Client
variable {H W : Type}

/-- From `c` on a step leaves the polls as they are, and what else it posts or withdraws
is held or no longer held. It may cut retry delays short, but starts none. -/
structure Steady (c : Client H W) (s : Step H W) : Prop where
  version : s.1.core.version = c.core.version
  polls : pollsIn s.1.posts = pollsIn c.posts
  inFlight : s.1.supervisor.polling.inFlight = c.supervisor.polling.inFlight
  retries : s.1.retries ⊆ c.retries
  held : ∀ held, Held c.core.version held c.posts →
    Held c.core.version (heldAfter held s.2) s.1.posts

namespace Steady

/-- A step that touches no post. -/
theorem aside {c : Client H W} {s : Step H W} (version : s.1.core.version = c.core.version)
    (posts : s.1.posts = c.posts)
    (inFlight : s.1.supervisor.polling.inFlight = c.supervisor.polling.inFlight)
    (retries : s.1.retries ⊆ c.retries) (silent : ∀ held, heldAfter held s.2 = held) :
    c.Steady s where
  version := version
  polls := by rw [posts]
  inFlight := inFlight
  retries := retries
  held held h := by rwa [silent, posts]

theorem refl (c : Client H W) : c.Steady (c, []) :=
  aside rfl rfl rfl (List.Subset.refl _) fun _ => rfl

theorem andThen {c : Client H W} {s : Step H W} {f : Client H W → Step H W} (h : c.Steady s)
    (hf : s.1.Steady (f s.1)) : c.Steady (s.andThen f) where
  version := hf.version.trans h.version
  polls := hf.polls.trans h.polls
  inFlight := hf.inFlight.trans h.inFlight
  retries := List.Subset.trans hf.retries h.retries
  held held hheld := by
    have hmid := h.held held hheld
    rw [← h.version] at hmid ⊢
    simpa only [Step.andThen, heldAfter_append] using hf.held _ hmid

/-- Nothing but posts, the topics in flight and retry delays matters of where a step starts. -/
theorem of_same {c d : Client H W} {s : Step H W} (hs : d.Steady s)
    (version : d.core.version = c.core.version) (posts : d.posts = c.posts)
    (inFlight : d.supervisor.polling.inFlight = c.supervisor.polling.inFlight)
    (retries : d.retries = c.retries) : c.Steady s where
  version := hs.version.trans version
  polls := by rw [hs.polls, posts]
  inFlight := hs.inFlight.trans inFlight
  retries := retries ▸ hs.retries
  held := by
    rw [← version, ← posts]
    exact hs.held

end Steady

/-! ## Posts -/

theorem steady_post (c : Client H W) {purpose : Purpose} (hpurpose : purpose.topic? = none)
    {m : Message} (hm : m.kind ≠ .subscribe) : c.Steady (c.post purpose m) where
  version := rfl
  polls := by simp [post, pollsIn, hpurpose]
  inFlight := rfl
  retries := List.Subset.refl _
  held held h := by
    refine h.posted _ ?_
    cases purpose with
    | poll topic ts => cases hpurpose
    | _ => exact ⟨m, hm, rfl⟩

theorem steady_withdraw {c : Client H W} {call : PendingCall}
    (hcall : ∀ key, call.post = some key →
      ∀ purpose, (key, purpose) ∈ c.posts → purpose.topic? = none) :
    c.Steady (c.withdraw call) := by
  rw [withdraw]
  cases hpost : call.post with
  | none => exact .refl c
  | some key =>
    exact ⟨rfl, pollsIn_erase (hcall key hpost), rfl, List.Subset.refl _, fun _ h => h.erase key⟩

/-! ## Calls -/

theorem steady_markSent (c : Client H W) (number : Nat) : c.Steady (c.markSent number, []) :=
  .aside rfl rfl rfl (List.Subset.refl _) fun _ => rfl

theorem silent_returned (call : PendingCall) (number : Nat) (result : Except ClientError Json)
    (held : List (Nat × String)) :
    heldAfter held (recordsOf call result ++ [.returned number result]) = held := by
  cases result with
  | ok _ => rfl
  | error e =>
    rw [recordsOf]
    cases call.reportedAs <;> rfl

theorem steady_finish {c : Client H W} (hc : c.Numbered) (number : Nat)
    (result : Except ClientError Json) : c.Steady (c.finish number result) := by
  rw [finish]
  cases hfound : Assoc.find? number c.calls with
  | none => exact .refl c
  | some call =>
    have hcall := hc.calls _ (Assoc.mem_of_find? hfound)
    refine Steady.of_same (Steady.andThen (steady_withdraw fun key hkey => (hcall key hkey).2) ?_)
      rfl rfl rfl rfl
    exact .aside rfl rfl rfl (List.Subset.refl _) (silent_returned call number result)

theorem steady_collect {c : Client H W} (hc : c.Numbered) (number : Nat) :
    c.Steady (c.collect number) := by
  rw [collect]
  cases (Assoc.find? number c.calls).bind fun call => c.result? call with
  | none => exact .refl c
  | some result => exact steady_finish hc number result

theorem steady_expire {c : Client H W} (hc : c.Numbered) (now number : Nat) :
    c.Steady (c.expire now number) := by
  rw [expire]
  split
  · split
    · exact steady_finish hc number _
    · exact .refl c
  · exact .refl c

/-! ## Inbound messages -/

/-- Closing leaves the polls under way, for they still complete. -/
theorem steady_absorb {c : Client H W} {i : Inbound H W} (hmoves : Core.Moves c.core i.core) :
    c.Steady (c.absorb i) := by
  have hversion := Core.version_moves hmoves
  have silent : ∀ held, heldAfter held (i.records.map (ClientEffect.recorded .error) ++
      (i.answered.filterMap c.callOf?).map ClientEffect.answered) = held := by
    refine heldAfter_silent ?_
    intro e he
    rcases List.mem_append.mp he with he | he
    · obtain ⟨record, -, rfl⟩ := List.mem_map.mp he
      exact fun _ => rfl
    · obtain ⟨number, -, rfl⟩ := List.mem_map.mp he
      exact fun _ => rfl
  rw [absorb]
  by_cases hshut : (i.core.closed && !c.isClosed) = true
  · simp only [if_pos hshut]
    exact .aside hversion rfl rfl (List.nil_subset _) silent
  · simp only [if_neg hshut]
    exact .aside hversion rfl rfl (List.Subset.refl _) silent

section Handlers
variable {b : Behaviour H W}

theorem steady_deliver (hb : b.Proper) (c : Client H W) (now : Nat) (body : String) :
    c.Steady (c.deliver b now body) := by
  rw [deliver]
  by_cases hempty : body = ""
  · rw [if_pos hempty]
    exact .refl c
  · rw [if_neg hempty]
    exact steady_absorb (Core.moves_onPayload hb now body c.core)

theorem steady_callOutcome (hb : b.Proper) {c : Client H W} (hc : c.Numbered)
    (now number : Nat) (result : Except TransportError String) :
    c.Steady (c.callOutcome b now number result) := by
  have hupdate := quiet_updateCall hc number (f := fun call => { call with post := none }) nofun
  simp only [callOutcome]
  cases result with
  | ok body =>
    exact ((steady_deliver hb _ now body).andThen (f := fun d => (d.markSent number, []))
      (steady_markSent _ number)).of_same rfl rfl rfl rfl
  | error e => exact (steady_finish hupdate.numbered number _).of_same rfl rfl rfl rfl

end Handlers

/-! ## The socket -/

theorem steady_onEffect {c : Client H W} (hc : c.Numbered) (e : SocketEffect Tag) :
    c.Steady (c.onEffect e) := by
  simp only [onEffect]
  cases e with
  | settled tag fault =>
    cases tag with
    | none => exact .refl c
    | some number =>
      cases fault with
      | none => exact steady_markSent c number
      | some error => exact steady_finish hc number _
  | _ => exact .aside rfl rfl rfl (List.Subset.refl _) fun _ => rfl

theorem steady_onEffects (effects : List (SocketEffect Tag)) {c : Client H W}
    (hc : c.Numbered) : c.Steady (forEach onEffect effects c) := by
  induction effects generalizing c with
  | nil => exact .refl c
  | cons e rest ih => exact (steady_onEffect hc e).andThen (ih (quiet_onEffect hc e).numbered)

theorem steady_onSocket {c : Client H W} (hc : c.Numbered) (now : Nat) (e : SocketEvent Tag) :
    c.Steady (c.onSocket now e) := by
  rw [onSocket]
  cases c.socket with
  | none => exact .refl c
  | some socket =>
    have hnumbered : { c with socket := some (socket.step now e).1 : Client H W }.Numbered :=
      hc.congr rfl rfl rfl
    exact (steady_onEffects _ hnumbered).of_same rfl rfl rfl rfl

theorem steady_payload {b : Behaviour H W} (hb : b.Proper) {c : Client H W} (hc : c.Numbered)
    (now : Nat) (text : String) : c.Steady (c.payload b now text) := by
  have hmoves := Core.moves_onPayload hb now text c.core
  rw [payload]
  split
  · exact (steady_absorb hmoves).andThen (steady_onSocket (quiet_absorb hc hmoves).numbered now _)
  · exact .refl c

/-! ## Making calls -/

theorem steady_transmit {c : Client H W} (hc : c.Numbered) (now number : Nat) {m : Message}
    (hm : m.kind ≠ .subscribe) : c.Steady (c.transmit now number m) := by
  rw [transmit]
  cases c.supervisor.active with
  | socket => exact steady_onSocket hc now _
  | polling => exact (steady_post _ rfl hm).of_same rfl rfl rfl rfl

theorem steady_request {c : Client H W} (hc : c.Numbered) (now : Nat) (uri : String)
    (payload : Json) (reported : Bool) : c.Steady (c.request now uri payload reported) := by
  rw [request]
  by_cases hclosed : c.isClosed = true
  · simp only [if_pos hclosed]
    exact (steady_finish (quiet_begin hc _ rfl).numbered _ _).of_same rfl rfl rfl rfl
  · simp only [if_neg hclosed]
    have hnumbered := (quiet_withCorrelator hc fun _ =>
      (c.core.correlator.request uri payload).2.2).numbered
    refine Steady.of_same (steady_transmit ?_ now _ ?_) rfl rfl rfl rfl
    · exact (quiet_begin hnumbered _ rfl).numbered
    · simp [Correlator.request, Message.request]

theorem steady_describe {c : Client H W} (hc : c.Numbered) (now : Nat) (metadata : Metadata) :
    c.Steady (c.describe now metadata) := by
  have hbegin := (quiet_begin hc { id := none } rfl).numbered
  rw [describe]
  by_cases hclosed : c.isClosed = true
  · simp only [if_pos hclosed]
    exact (steady_finish hbegin _ _).of_same rfl rfl rfl rfl
  · simp only [if_neg hclosed]
    exact (steady_transmit hbegin now _ (by simp [Message.describe])).of_same rfl rfl rfl rfl

/-! ## Statuses -/

/-- Polling stops and goes on without a change to the topics in flight. -/
theorem inFlight_onStatus (status : ConnectionStatus) (s : Supervisor) :
    (s.onStatus status).supervisor.polling.inFlight = s.polling.inFlight := by
  rcases (s.onStatus_eq status).2 with ⟨-, heq⟩ | ⟨-, heq⟩
  · rw [heq]
  · rw [heq]

theorem version_resubscribe (c : Core H W) : c.resubscribe.version = c.version := by
  rw [Core.resubscribe]
  split <;> rfl

theorem steady_look (c : Client H W) : c.Steady c.look := by
  rw [look]
  by_cases hclosed : c.isClosed = true
  · rw [if_pos hclosed]
    exact .refl c
  rw [if_neg hclosed]
  cases c.statuses with
  | nil => exact .refl c
  | cons status rest =>
    refine .aside ?_ rfl (inFlight_onStatus status _) (List.Subset.refl _) ?_
    · dsimp only
      split
      · exact version_resubscribe c.core
      · rfl
    · intro held
      dsimp only
      split <;> rfl

end Client

end TopicClient
