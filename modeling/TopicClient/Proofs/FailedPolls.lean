import TopicClient.Proofs.PollStarts

/-!
# After a failed poll

A poll that fails starts nothing. The topic is polled again only if polling is armed with
it: by a subscribe message, or where polling goes on with all topics after the poll of
another topic or after a retry delay. A topic that is polled alone therefore rests until
its own delay is over, and for good once the server has refused it.
-/

namespace TopicClient.Client
variable {H W : Type} {b : Behaviour H W}

/-- Whether an event hands a subscribe message to polling. -/
def subscribes (c : Client H W) : ClientEvent H → Bool
  | .pump =>
    !c.isClosed && !c.supervisor.onSocket && c.core.outbox.head?.any fun m => m.kind = .subscribe
  | _ => false

/-- The events of a run come before the horizon, and none hands polling a subscribe message. -/
def Undisturbed (b : Behaviour H W) (horizon : Nat) (c : Client H W) :
    List (Nat × ClientEvent H) → Prop
  | [] => True
  | (now, e) :: rest =>
    now < horizon ∧ c.subscribes e = false ∧ (c.step b now e).1.Undisturbed b horizon rest

/-- No poll is under way, and no retry delay is over before the horizon. -/
structure Rests (horizon : Nat) (c : Client H W) : Prop where
  polled : c.polled = []
  retries : ∀ deadline ∈ c.retries, horizon ≤ deadline

theorem mem_polled_iff {c : Client H W} {topic : String} :
    topic ∈ c.polled ↔ ∃ key ts, (key, Purpose.poll topic ts) ∈ c.posts := by
  rw [polled_eq]
  constructor
  · intro h
    obtain ⟨⟨key, purpose⟩, hmem, htopic⟩ := List.mem_filterMap.mp h
    cases purpose with
    | poll t ts =>
      obtain rfl := Option.some.inj htopic
      exact ⟨key, ts, hmem⟩
    | _ => cases htopic
  · rintro ⟨key, ts, hmem⟩
    exact List.mem_filterMap.mpr ⟨_, hmem, rfl⟩

theorem not_poll_of_rests {horizon : Nat} {c : Client H W} (h : c.Rests horizon) {key : Nat}
    {topic : String} {ts : Int64} : Assoc.find? key c.posts ≠ some (.poll topic ts) := by
  intro hfound
  have hmem : topic ∈ c.polled := mem_polled_iff.mpr ⟨key, ts, Assoc.mem_of_find? hfound⟩
  rw [h.polled] at hmem
  cases hmem

/-- What rests is armed by subscribe messages alone. -/
theorem Rests.subscribes_of_arms {now horizon : Nat} {c d : Client H W} {e : ClientEvent H}
    {cursors : Cursors} (hc : c.Rests horizon) (hnow : now < horizon)
    (opened : c.isClosed = false) (hoff : c.supervisor.onSocket = false)
    (arms : Arms now c d e cursors) : c.subscribes e = true := by
  cases arms with
  | sent first kind => simp [subscribes, opened, hoff, first, kind]
  | answered body poll => exact absurd poll (not_poll_of_rests hc)
  | waited running due => exact absurd (hc.retries _ running) (by omega)

theorem Course.rests {now horizon : Nat} {c : Client H W} {e : ClientEvent H} {s : Step H W}
    (h : Course now c e s) (hc : c.Rests horizon) (hnumbered : c.Numbered) (hnow : now < horizon)
    (hquiet : c.subscribes e = false) : s.1.Rests horizon := by
  have hended : (c.ended now e).Rests horizon := by
    rcases ended_cases hnumbered now e with
      ⟨key, result, topic, ts, rfl, hfound⟩ | ⟨hpolls, -, hretries⟩
    · exact absurd hfound (not_poll_of_rests hc)
    · exact ⟨(polled_of_pollsIn hpolls).trans hc.polled, hretries ▸ hc.retries⟩
  have hretries := fun deadline hmem => hended.retries deadline (h.retries hmem)
  cases h with
  | steady steady =>
    exact ⟨(polled_of_pollsIn steady.polls).trans hended.polled, hretries⟩
  | armed _ arms opened before =>
    exact absurd (hc.subscribes_of_arms hnow opened before arms) (by simp [hquiet])

/-- Polling that rests goes on resting. -/
theorem Rests.run {horizon : Nat} {c : Client H W} {l : Ledger} (h : c.Rests horizon)
    (hinv : c.Inv l) (hb : b.Proper) {events : List (Nat × ClientEvent H)}
    (undisturbed : c.Undisturbed b horizon events) : (c.run b events).1.Rests horizon := by
  induction events generalizing c l with
  | nil => exact h
  | cons e rest ih =>
    obtain ⟨now, e⟩ := e
    obtain ⟨hnow, hquiet, hrest⟩ := undisturbed
    exact ih ((hinv.course hb now e).rests h hinv.numbered hnow hquiet) (hinv.step hb now e) hrest

/-- What makes a topic polled is that polling is armed with it. -/
theorem Course.polled_again {now : Nat} {c : Client H W} {e : ClientEvent H} {s : Step H W}
    (h : Course now c e s) {topic : String} (hbefore : topic ∉ c.polled)
    (hafter : topic ∈ s.1.polled) :
    ∃ cursors, Arms now c s.1 e cursors ∧ topic ∈ cursors.topics := by
  obtain ⟨key, ts, hmem⟩ := mem_polled_iff.mp hafter
  have hfresh : (key, Purpose.poll topic ts) ∉ c.posts := fun hold =>
    hbefore (mem_polled_iff.mpr ⟨key, ts, hold⟩)
  obtain ⟨⟨cursors, harms, hlisted⟩, -⟩ := h.starts hmem hfresh
  exact ⟨cursors, harms, List.mem_map_of_mem hlisted⟩

/-- A topic that is not polled is polled later only if on the way, while it was still not
polled, an event armed polling with it. -/
theorem Inv.polled_again {c : Client H W} {l : Ledger} (hinv : c.Inv l) (hb : b.Proper)
    {topic : String} (hbefore : topic ∉ c.polled) {events : List (Nat × ClientEvent H)}
    (hafter : topic ∈ (c.run b events).1.polled) :
    ∃ past now e later, events = past ++ (now, e) :: later ∧
      let f := (c.run b past).1
      topic ∉ f.polled ∧
        ∃ cursors, Arms now f (f.step b now e).1 e cursors ∧ topic ∈ cursors.topics := by
  induction events generalizing c l with
  | nil => exact absurd hafter hbefore
  | cons e rest ih =>
    obtain ⟨now, e⟩ := e
    by_cases hnext : topic ∈ (c.step b now e).1.polled
    · exact ⟨[], now, e, rest, rfl, hbefore, (hinv.course hb now e).polled_again hbefore hnext⟩
    · obtain ⟨past, now', e', later, rfl, hfound⟩ := ih (hinv.step hb now e) hnext hafter
      exact ⟨(now, e) :: past, now', e', later, rfl, hfound⟩

/-- What comes of a poll that fails. Its topic is polled no more and nothing else changes
among the polls; a retry delay starts, unless the server has refused the poll or the client
is closed. Later the topic is polled again only after an event that arms polling with it.
If it was polled alone, nothing is polled before the first retry delay is over, unless a
subscribe message goes out to polling. -/
theorem failed_poll (hb : b.Proper) (settings : Settings) (surroundings : W) (since : Nat)
    (events : List (Nat × ClientEvent H)) {now key : Nat} {topic : String} {ts : Int64}
    (e : TransportError) :
    let c := ((start settings surroundings since).run b events).1
    let d := (c.step b now (.outcome key (.error e))).1
    (key, .poll topic ts) ∈ c.posts →
      d.polled = c.polled.erase topic ∧
      d.retries = c.retries ++ (c.delay? now (.error e)).toList ∧
      (∀ rest, topic ∈ (d.run b rest).1.polled →
        ∃ past now' e' later, rest = past ++ (now', e') :: later ∧
          let f := (d.run b past).1
          topic ∉ f.polled ∧
            ∃ cursors, Arms now' f (f.step b now' e').1 e' cursors ∧ topic ∈ cursors.topics) ∧
      (c.polled = [topic] → ∀ horizon, (∀ deadline ∈ d.retries, horizon ≤ deadline) →
        ∀ rest, d.Undisturbed b horizon rest → (d.run b rest).1.polled = []) := by
  intro c d hmem
  have hinv := Inv.run hb events (inv_start (H := H) settings surroundings since)
  have hpaired := ((tallies_start (H := H) settings surroundings since).run
    (inv_start settings surroundings since) hb events).paired
  have hfound := Assoc.find?_of_mem hinv.numbered.distinct hmem
  have hd : d = c.ended now (.outcome key (.error e)) :=
    congrArg Prod.fst (outcome_failed b hfound now e)
  have hpolled : d.polled = c.polled.erase topic := by
    rw [hd, ended_poll hfound]
    exact polled_withoutPoll hpaired hfound
  have hover : topic ∉ d.polled := by
    rw [hpolled]
    exact hpaired.once.not_mem_erase
  have hinvd := hinv.step hb now (.outcome key (.error e))
  refine ⟨hpolled, ?_, fun rest hagain => hinvd.polled_again hb hover hagain, ?_⟩
  · rw [hd, ended_poll hfound]
  · intro halone horizon hretries rest undisturbed
    have hrests : d.Rests horizon := by
      refine ⟨?_, hretries⟩
      rw [hpolled, halone, List.erase_cons_head]
    exact (hrests.run hinvd hb undisturbed).polled

open Scenario in
/-- The only topic is polled in vain. Nothing is polled until the delay is over. -/
theorem failed_poll_alone :
    let events : List (Nat × ClientEvent Listener) :=
      [(0, .subscribe "a" { name := "x", topic := "a" }), (0, .pump)]
    let c := ((start { forcePolling := true } {} 0).run listen events).1
    let d := (c.step listen 10 (.outcome 1 (.error (.http 500 "no")))).1
    (1, .poll "a" 0) ∈ c.posts ∧ d.retries = [4010] ∧
      (d.run listen [(100, .pump), (4009, .retry)]).1.polled = [] ∧
      ∃ past now e later, [(4010, ClientEvent.retry)] = past ++ (now, e) :: later ∧
        let f := (d.run listen past).1
        "a" ∉ f.polled ∧
          ∃ cursors, Arms now f (f.step listen now e).1 e cursors ∧ "a" ∈ cursors.topics := by
  intro events c d
  have hpoll : (1, Purpose.poll "a" 0) ∈ c.posts := by decide +kernel
  obtain ⟨-, hretries, hagain, halone⟩ := failed_poll listen_proper { forcePolling := true } {} 0
    events (.http 500 "no") hpoll
  have hdelay : d.retries = [4010] := hretries.trans (by decide +kernel)
  refine ⟨hpoll, hdelay, halone (by decide +kernel) 4010 ?_ _ ?_, hagain _ (by decide +kernel)⟩
  · intro deadline hmem
    obtain rfl := List.mem_singleton.mp (hdelay ▸ hmem)
    exact Nat.le_refl _
  · exact ⟨by decide, by decide +kernel, by decide, by decide +kernel, trivial⟩

open Scenario in
/-- The poll of a topic is refused, or fails and is to be tried again at 4000. The answer to
the poll of another topic starts a poll of it at once, without a subscribe message. -/
theorem failed_poll_beside_another :
    let c := ((start { forcePolling := true } {} 0).run listen
      [(0, .subscribe "a" { name := "x", topic := "a" }),
       (0, .subscribe "b" { name := "y", topic := "b" }), (0, .pump), (0, .pump)]).1
    let refused := (c.step listen 0 (.outcome 1 (.error (.http 404 "no")))).1
    let failed := (c.step listen 0 (.outcome 1 (.error (.http 500 "no")))).1
    let other : ClientEvent Listener := .outcome 2 (.ok "")
    c.posts = [(1, .poll "a" 0), (2, .poll "b" 0)] ∧
      (refused.polled = ["b"] ∧ refused.subscribes other = false ∧
        "a" ∈ (refused.step listen 1000 other).1.polled) ∧
      (failed.polled = ["b"] ∧ failed.subscribes other = false ∧ failed.retries = [4000] ∧
        "a" ∈ (failed.step listen 1000 other).1.polled) := by
  decide +kernel

end TopicClient.Client
