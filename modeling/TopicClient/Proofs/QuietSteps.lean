import TopicClient.Client.Step
import TopicClient.Proofs.Announcements
import TopicClient.Proofs.PollsUnderWay
import TopicClient.Proofs.SocketReports

/-!
# Quiet steps

Most of what a client does starts no poll, ends none and switches no transport:
calls are made, answered and given up, handlers are told and the socket reports
what became of its frames. Such a step is quiet. Whatever is quiet composes.
-/

namespace TopicClient.Client
variable {H W : Type}

/-- From `c` to `d` nothing has happened to what carries topics; at most the client
has been closed. -/
structure Quiet (c d : Client H W) : Prop where
  numbered : d.Numbered
  moves : Core.Moves c.core d.core
  polled : d.polled = c.polled
  supervisor : d.isClosed = false → d.supervisor = c.supervisor
  retries : d.isClosed = false → d.retries = c.retries
  socket : d.socket = c.socket
  statuses : d.statuses = c.statuses

namespace Quiet

theorem refl {c : Client H W} (hc : c.Numbered) : c.Quiet c :=
  ⟨hc, .refl, rfl, fun _ => rfl, fun _ => rfl, rfl, rfl⟩

theorem isClosed {c d : Client H W} (h : c.Quiet d) (hd : d.isClosed = false) :
    c.isClosed = false := by
  by_contra hc
  have hclosed : d.isClosed = true :=
    Core.closed_moves h.moves (by simpa [Client.isClosed] using hc)
  rw [hclosed] at hd
  cases hd

theorem trans {c d e : Client H W} (hcd : c.Quiet d) (hde : d.Quiet e) : c.Quiet e where
  numbered := hde.numbered
  moves := hcd.moves.trans hde.moves
  polled := hde.polled.trans hcd.polled
  supervisor he := (hde.supervisor he).trans (hcd.supervisor (hde.isClosed he))
  retries he := (hde.retries he).trans (hcd.retries (hde.isClosed he))
  socket := hde.socket.trans hcd.socket
  statuses := hde.statuses.trans hcd.statuses

end Quiet

theorem quiet_withCorrelator {c : Client H W} (hc : c.Numbered)
    (f : Correlator → Correlator) : c.Quiet (c.withCorrelator f) where
  numbered := hc.congr rfl rfl rfl
  moves := .single (.act (.own _ _ _))
  polled := rfl
  supervisor _ := rfl
  retries _ := rfl
  socket := rfl
  statuses := rfl

/-- Calls may change and go, as long as none gets the number of a poll. -/
theorem quiet_withCalls {c : Client H W} (hc : c.Numbered) (calls : List (Nat × PendingCall))
    (hcalls : ∀ e ∈ calls, ∀ key, e.2.post = some key → ∃ e' ∈ c.calls, e'.2.post = some key) :
    c.Quiet { c with calls } where
  numbered := by
    refine ⟨hc.distinct, hc.bounded, ?_⟩
    intro e he key hkey
    obtain ⟨e', he', hkey'⟩ := hcalls e he key hkey
    exact hc.calls e' he' key hkey'
  moves := .refl
  polled := rfl
  supervisor _ := rfl
  retries _ := rfl
  socket := rfl
  statuses := rfl

theorem mem_modify {f : PendingCall → PendingCall} {number : Nat}
    {calls : List (Nat × PendingCall)} {e : Nat × PendingCall}
    (h : e ∈ Assoc.modify number f calls) :
    e ∈ calls ∨ ∃ call, (number, call) ∈ calls ∧ e = (number, f call) := by
  induction calls with
  | nil => cases h
  | cons first rest ih =>
    obtain ⟨k, call⟩ := first
    by_cases hk : k = number
    · subst hk
      simp only [Assoc.modify, if_true] at h
      rcases List.mem_cons.mp h with rfl | hrest
      · exact .inr ⟨call, by simp, rfl⟩
      · exact .inl (by simp [hrest])
    · simp only [Assoc.modify, if_neg hk] at h
      rcases List.mem_cons.mp h with rfl | hrest
      · exact .inl (by simp)
      · rcases ih hrest with hmem | ⟨call', hmem, heq⟩
        · exact .inl (by simp [hmem])
        · exact .inr ⟨call', by simp [hmem], heq⟩

theorem quiet_updateCall {c : Client H W} (hc : c.Numbered) (number : Nat)
    {f : PendingCall → PendingCall}
    (hf : ∀ call key, (f call).post = some key → call.post = some key) :
    c.Quiet (c.updateCall number f) := by
  refine quiet_withCalls hc _ ?_
  intro e he key hkey
  rcases mem_modify he with hmem | ⟨call, hmem, rfl⟩
  · exact ⟨e, hmem, hkey⟩
  · exact ⟨_, hmem, hf call key hkey⟩

theorem quiet_markSent {c : Client H W} (hc : c.Numbered) (number : Nat) :
    c.Quiet (c.markSent number) :=
  quiet_updateCall hc number fun _ _ h => h

theorem quiet_begin {c : Client H W} (hc : c.Numbered) (call : PendingCall)
    (hcall : call.post = none) : c.Quiet (c.begin call) where
  numbered := by
    refine ⟨hc.distinct, hc.bounded, ?_⟩
    intro e he key hkey
    rcases List.mem_append.mp he with he | he
    · exact hc.calls e he key hkey
    · obtain rfl := List.mem_singleton.mp he
      simp [hcall] at hkey
  moves := .refl
  polled := rfl
  supervisor _ := rfl
  retries _ := rfl
  socket := rfl
  statuses := rfl

theorem distinct_post {c : Client H W} (hc : c.Numbered) (purpose : Purpose) :
    Assoc.Distinct (c.posts ++ [(c.lastPost + 1, purpose)]) := by
  rw [Assoc.Distinct, Assoc.keys_append]
  refine List.nodup_append.mpr ⟨hc.distinct, List.nodup_singleton _, ?_⟩
  intro k hk j hj heq
  obtain ⟨e, he, rfl⟩ := List.mem_map.mp hk
  have hold := hc.bounded e he
  simp only [Assoc.keys_cons, Assoc.keys_nil, List.mem_singleton] at hj
  omega

/-- No poll has the number of a new post that is none. -/
theorem other_post {c : Client H W} (hc : c.Numbered) {purpose : Purpose}
    (hpurpose : purpose.topic? = none) {key : Nat}
    (hkey : key = c.lastPost + 1 ∨ ∀ p, (key, p) ∈ c.posts → p.topic? = none) :
    ∀ p, (key, p) ∈ c.posts ++ [(c.lastPost + 1, purpose)] → p.topic? = none := by
  intro p hmem
  rcases List.mem_append.mp hmem with hmem | hmem
  · rcases hkey with rfl | hother
    · have hbound := hc.bounded _ hmem
      dsimp only at hbound
      omega
    · exact hother p hmem
  · simp only [List.mem_singleton, Prod.mk.injEq] at hmem
    rw [hmem.2]
    exact hpurpose

/-- A new post that is no poll. Its number may be given to a call. -/
theorem quiet_post {c : Client H W} (hc : c.Numbered) (calls : List (Nat × PendingCall))
    (hcalls : ∀ e ∈ calls, ∀ key, e.2.post = some key →
      key = c.lastPost + 1 ∨ ∃ e' ∈ c.calls, e'.2.post = some key)
    {purpose : Purpose} (hpurpose : purpose.topic? = none) (m : Message) :
    c.Quiet (post purpose m { c with calls }).1 where
  numbered := by
    refine ⟨distinct_post hc purpose, ?_, ?_⟩
    · intro e he
      rcases List.mem_append.mp he with he | he
      · exact Nat.le_succ_of_le (hc.bounded e he)
      · obtain rfl := List.mem_singleton.mp he
        exact Nat.le_refl _
    · intro e he key hkey
      rcases hcalls e he key hkey with rfl | ⟨e', he', hkey'⟩
      · exact ⟨Nat.le_refl _, other_post hc hpurpose (.inl rfl)⟩
      · obtain ⟨hbound, hother⟩ := hc.calls e' he' key hkey'
        exact ⟨Nat.le_succ_of_le hbound, other_post hc hpurpose (.inr hother)⟩
  moves := .refl
  polled := by
    rw [polled_eq, polled_eq]
    simp [post, polledBy, hpurpose]
  supervisor _ := rfl
  retries _ := rfl
  socket := rfl
  statuses := rfl

/-- The posts of polls stay when another post ends. -/
theorem quiet_erasePost {c : Client H W} (hc : c.Numbered) {key : Nat}
    (h : ∀ purpose, (key, purpose) ∈ c.posts → purpose.topic? = none) :
    c.Quiet { c with posts := Assoc.erase key c.posts } where
  numbered := by
    have hsub := Assoc.erase_sublist key c.posts
    refine ⟨Assoc.distinct_erase hc.distinct, fun e he => hc.bounded e (hsub.subset he), ?_⟩
    intro e he k hk
    obtain ⟨hbound, hother⟩ := hc.calls e he k hk
    exact ⟨hbound, fun p hmem => hother p (hsub.subset hmem)⟩
  moves := .refl
  polled := by
    rw [polled_eq, polled_eq]
    exact polledBy_erase h
  supervisor _ := rfl
  retries _ := rfl
  socket := rfl
  statuses := rfl

theorem quiet_withdraw {c : Client H W} (hc : c.Numbered) {call : PendingCall}
    (hcall : ∀ key, call.post = some key →
      ∀ purpose, (key, purpose) ∈ c.posts → purpose.topic? = none) :
    c.Quiet (c.withdraw call).1 := by
  rw [withdraw]
  cases hpost : call.post with
  | none => exact .refl hc
  | some key => exact quiet_erasePost hc (hcall key hpost)

theorem quiet_finish {c : Client H W} (hc : c.Numbered) (number : Nat)
    (result : Except ClientError Json) : c.Quiet (c.finish number result).1 := by
  rw [finish]
  cases hfound : Assoc.find? number c.calls with
  | none => exact .refl hc
  | some call =>
    have hmem := Assoc.mem_of_find? hfound
    have herase := quiet_withCalls hc (Assoc.erase number c.calls)
      fun e he key hkey => ⟨e, (Assoc.erase_sublist number c.calls).subset he, hkey⟩
    have hcorrelator := quiet_withCorrelator herase.numbered
    have hwithdraw := fun f => quiet_withdraw (hcorrelator f).numbered
      fun key hkey => (hc.calls _ hmem key hkey).2
    exact (herase.trans (hcorrelator _)).trans (hwithdraw _)

theorem quiet_collect {c : Client H W} (hc : c.Numbered) (number : Nat) :
    c.Quiet (c.collect number).1 := by
  rw [collect]
  cases (Assoc.find? number c.calls).bind fun call => c.result? call with
  | none => exact .refl hc
  | some result => exact quiet_finish hc number result

theorem quiet_expire {c : Client H W} (hc : c.Numbered) (now number : Nat) :
    c.Quiet (c.expire now number).1 := by
  rw [expire]
  split
  · split
    · exact quiet_finish hc number _
    · exact .refl hc
  · exact .refl hc

/-- Closing is quiet, since nothing is asked of a closed client. -/
theorem quiet_close {c : Client H W} (hc : c.Numbered) : c.Quiet c.close where
  numbered := hc.congr rfl rfl rfl
  moves := .single (.act (.close _))
  polled := rfl
  supervisor hd := by cases hd
  retries hd := by cases hd
  socket := rfl
  statuses := rfl

theorem quiet_unsubscribe {c : Client H W} (hc : c.Numbered) (topic : String)
    (id : HandlerId) : c.Quiet (c.unsubscribe topic id).2 where
  numbered := hc.congr rfl rfl rfl
  moves := .single (.act (.unsubscribe _ topic id))
  polled := rfl
  supervisor _ := rfl
  retries _ := rfl
  socket := rfl
  statuses := rfl

/-- Whatever comes in is quiet outside the core. -/
theorem quiet_absorb {c : Client H W} (hc : c.Numbered) {i : Inbound H W}
    (hmoves : Core.Moves c.core i.core) : c.Quiet (c.absorb i).1 := by
  rw [absorb]
  by_cases hshut : (i.core.closed && !c.isClosed) = true
  · have hclosed : i.core.closed = true := (Bool.and_eq_true_iff.mp hshut).1
    simp only [if_pos hshut]
    refine ⟨hc.congr rfl rfl rfl, hmoves, rfl, ?_, ?_, rfl, rfl⟩
    · intro hd
      exact absurd (hclosed.symm.trans hd) nofun
    · intro hd
      exact absurd (hclosed.symm.trans hd) nofun
  · simp only [if_neg hshut]
    exact ⟨hc.congr rfl rfl rfl, hmoves, rfl, fun _ => rfl, fun _ => rfl, rfl, rfl⟩

section Handlers
variable {b : Behaviour H W}

theorem quiet_subscribe (hb : b.Proper) {c : Client H W} (hc : c.Numbered) (topic : String)
    (h : H) : c.Quiet (c.subscribe b topic h).2.1 :=
  quiet_absorb hc (Core.moves_subscribe hb topic h c.core)

theorem quiet_deliver (hb : b.Proper) {c : Client H W} (hc : c.Numbered) (now : Nat)
    (body : String) : c.Quiet (c.deliver b now body).1 := by
  rw [deliver]
  by_cases hempty : body = ""
  · rw [if_pos hempty]
    exact .refl hc
  · rw [if_neg hempty]
    exact quiet_absorb hc (Core.moves_onPayload hb now body c.core)

theorem quiet_callOutcome (hb : b.Proper) {c : Client H W} (hc : c.Numbered)
    (now number : Nat) (result : Except TransportError String) :
    c.Quiet (c.callOutcome b now number result).1 := by
  have hupdate := quiet_updateCall hc number (f := fun call => { call with post := none }) nofun
  simp only [callOutcome]
  cases result with
  | ok body =>
    have hdeliver := quiet_deliver hb hupdate.numbered now body
    exact hupdate.trans (hdeliver.trans (quiet_markSent hdeliver.numbered number))
  | error e => exact hupdate.trans (quiet_finish hupdate.numbered number _)

end Handlers

/-! ## Steps of the socket -/

/-- A client whose socket has told something. -/
def withStatuses (more : List ConnectionStatus) (c : Client H W) : Client H W :=
  { c with statuses := c.statuses ++ more }

theorem Quiet.withStatuses {c d : Client H W} (h : c.Quiet d)
    (more : List ConnectionStatus) : (c.withStatuses more).Quiet (d.withStatuses more) where
  numbered := h.numbered.congr rfl rfl rfl
  moves := h.moves
  polled := h.polled
  supervisor := h.supervisor
  retries := h.retries
  socket := h.socket
  statuses := congrArg (· ++ more) h.statuses

theorem quiet_onEffect {c : Client H W} (hc : c.Numbered) (e : SocketEffect Tag) :
    (c.withStatuses (Socket.told [e])).Quiet (c.onEffect e).1 := by
  have hquiet : ∀ d : Client H W, c.Quiet d → (c.withStatuses []).Quiet d := by
    intro d hd
    simpa [Client.withStatuses] using hd
  simp only [onEffect]
  cases e with
  | published status => exact .refl (hc.congr rfl rfl rfl)
  | settled tag fault =>
    cases tag with
    | none => exact hquiet _ (.refl hc)
    | some number =>
      cases fault with
      | none => exact hquiet _ (quiet_markSent hc number)
      | some error => exact hquiet _ (quiet_finish hc number _)
  | _ => exact hquiet _ (.refl hc)

theorem quiet_onEffects (effects : List (SocketEffect Tag)) {c : Client H W}
    (hc : c.Numbered) :
    (c.withStatuses (Socket.told effects)).Quiet (forEach onEffect effects c).1 := by
  induction effects generalizing c with
  | nil =>
    have hnil : c.withStatuses [] = c := by simp [Client.withStatuses]
    change (c.withStatuses []).Quiet c
    rw [hnil]
    exact .refl hc
  | cons e rest ih =>
    have hsplit : c.withStatuses (Socket.told (e :: rest)) =
        (c.withStatuses (Socket.told [e])).withStatuses (Socket.told rest) := by
      rw [Socket.told_cons]
      simp [Client.withStatuses]
    have hhead := quiet_onEffect hc e
    rw [hsplit]
    exact (hhead.withStatuses (Socket.told rest)).trans (ih hhead.numbered)

/-- A client whose socket has taken a step, but that has not looked at what came of it. -/
def stepped (now : Nat) (e : SocketEvent Tag) (c : Client H W) : Client H W :=
  match c.socket with
  | none => c
  | some socket =>
    { c with
      socket := some (socket.step now e).1
      statuses := c.statuses ++ Socket.told (socket.step now e).2 }

theorem quiet_onSocket {c : Client H W} (hc : c.Numbered) (now : Nat)
    (e : SocketEvent Tag) : (c.stepped now e).Quiet (c.onSocket now e).1 := by
  unfold stepped onSocket
  cases hsocket : c.socket with
  | none => exact .refl hc
  | some socket =>
    exact quiet_onEffects (socket.step now e).2
      (c := { c with socket := some (socket.step now e).1 }) (hc.congr rfl rfl rfl)

end TopicClient.Client
