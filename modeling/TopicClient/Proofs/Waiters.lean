import Mathlib.Data.Set.Card
import TopicClient.Correlator
import TopicClient.Proofs.Entries

/-!
# What becomes of a waiter

Requests are numbered from one. The waiter of a request is decided by the first event
after it that concerns it: a response with its id, its cancellation, or the end of
everything. Until then it is pending, and after that nothing touches it any more.
-/

namespace TopicClient

namespace Correlator

namespace Event

def isRequest : Event → Bool
  | request _ _ => true
  | _ => false

/-- What an event means to whoever waits for the request with this id. -/
def decision? (id : UInt64) : Event → Option (Except ClientError Json)
  | request _ _ => none
  | resolve m =>
    if m.id = some id then
      some (match m.error with
        | some e => .error (.application e)
        | none => .ok (m.body.getD .null))
    else none
  | cancel i => if i = id then some (.error .closed) else none
  | failAll => some (.error .closed)

end Event

/-- How many requests there are among the events. -/
def requested (events : List Event) : Nat := events.countP Event.isRequest

/-- What waiting for a request has led to so far, if anyone waits for it. -/
def outcome? (id : UInt64) (c : Correlator) : Option (Option (Except ClientError Json)) :=
  (c.waiter? id).map (Option.map Answer.result)

/-- The request with this id was made, and no event since then decides it. -/
def Undecided (events : List Event) (id : UInt64) : Prop :=
  ∃ before uri payload after, events = before ++ .request uri payload :: after ∧
    id.toNat = requested before + 1 ∧ after.findSome? (Event.decision? id) = none

theorem requested_append (events more : List Event) :
    requested (events ++ more) = requested events + requested more :=
  List.countP_append

theorem requested_request (uri : String) (payload : Json) :
    requested [.request uri payload] = 1 := rfl

theorem requested_around (before after : List Event) (uri : String) (payload : Json) :
    requested (before ++ .request uri payload :: after) =
      requested before + 1 + requested after := by
  rw [List.append_cons, requested_append, requested_append, requested_request]

theorem requested_other {e : Event} (h : e.isRequest = false) : requested [e] = 0 := by
  simp [requested, h]

theorem run_snoc (events : List Event) (e : Event) :
    run (events ++ [e]) = (run events).step e := by
  simp [run]

/-! ## One waiter at a time -/

theorem outcome?_settle_self (id : UInt64) (answer : Answer) (c : Correlator) :
    (c.settle id answer).outcome? id = (c.outcome? id).map fun _ => some answer.result := by
  simp only [outcome?, waiter?, settle, Assoc.find?_modify_self, Option.map_map]
  rfl

theorem outcome?_settle_of_ne {id other : UInt64} (h : other ≠ id) (answer : Answer)
    (c : Correlator) : (c.settle id answer).outcome? other = c.outcome? other := by
  simp only [outcome?, waiter?, settle, Assoc.find?_modify_of_ne h]

/-- The pending requests are those whose waiters have got nothing yet, and no id is
ahead of the last one given out. -/
structure Linked (c : Correlator) : Prop where
  nodup : c.pending.Nodup
  pending : ∀ id, id ∈ c.pending ↔ c.outcome? id = some none
  issued : ∀ id, (c.outcome? id).isSome = true → id.toNat ≤ c.lastId.toNat

theorem Linked.isPending_iff {c : Correlator} (h : c.Linked) (id : UInt64) :
    c.isPending id = true ↔ c.outcome? id = some none := by
  rw [isPending, List.contains_iff_mem, h.pending]

/-- A waiter that is not pending has nothing to gain. -/
theorem Linked.outcome?_or {c : Correlator} (h : c.Linked) {id : UInt64} (hid : id ∉ c.pending)
    (more : Option (Except ClientError Json)) :
    ((c.outcome? id).map fun got => got.or more) = c.outcome? id := by
  rw [h.pending] at hid
  cases hfound : c.outcome? id with
  | none => rfl
  | some got =>
    cases got with
    | none => exact absurd hfound hid
    | some result => rfl

theorem Linked.settle {c : Correlator} (h : c.Linked) (id : UInt64) (answer : Answer) :
    (c.settle id answer).Linked := by
  refine ⟨h.nodup.erase id, ?_, ?_⟩
  · intro other
    have hmem : other ∈ (c.settle id answer).pending ↔ other ≠ id ∧ other ∈ c.pending :=
      h.nodup.mem_erase_iff
    by_cases hne : other = id
    · subst hne
      rw [hmem, outcome?_settle_self]
      cases c.outcome? other <;> simp
    · rw [hmem, outcome?_settle_of_ne hne, h.pending, and_iff_right hne]
  · intro other hsome
    refine h.issued other ?_
    by_cases hne : other = id
    · subst hne
      simpa only [outcome?_settle_self, Option.isSome_map] using hsome
    · simpa only [outcome?_settle_of_ne hne] using hsome

/-- Only what is pending can still be decided. -/
theorem outcome?_settle_pending {c : Correlator} (h : c.Linked) (id : UInt64) (answer : Answer)
    (other : UInt64) :
    (if c.isPending id then c.settle id answer else c).outcome? other =
      (c.outcome? other).map fun got =>
        got.or (if id = other then some answer.result else none) := by
  by_cases hid : id = other
  · subst hid
    rw [if_pos rfl]
    by_cases hpending : c.isPending id = true
    · have hnothing := (h.isPending_iff id).mp hpending
      rw [if_pos hpending, outcome?_settle_self, hnothing]
      rfl
    · have hdecided : id ∉ c.pending := by
        rwa [h.pending, ← h.isPending_iff]
      rw [if_neg hpending, h.outcome?_or hdecided]
  · have hkeep : (if c.isPending id then c.settle id answer else c).outcome? other =
        c.outcome? other := by
      split
      · exact outcome?_settle_of_ne (Ne.symm hid) answer c
      · rfl
    rw [hkeep, if_neg hid]
    simp

theorem outcome?_settleAll (ids : List UInt64) (answer : Answer) (c : Correlator)
    (id : UInt64) :
    (ids.foldl (fun c id => c.settle id answer) c).outcome? id =
      if id ∈ ids then (c.outcome? id).map fun _ => some answer.result else c.outcome? id := by
  induction ids generalizing c with
  | nil => rfl
  | cons i ids ih =>
    rw [List.foldl_cons, ih]
    by_cases hi : id = i
    · subst hi
      rw [outcome?_settle_self, Option.map_map, if_pos List.mem_cons_self]
      split <;> rfl
    · rw [outcome?_settle_of_ne hi]
      simp only [List.mem_cons, hi, false_or]

theorem Linked.settleAll {c : Correlator} (h : c.Linked) (ids : List UInt64) (answer : Answer) :
    (ids.foldl (fun c id => c.settle id answer) c).Linked := by
  induction ids generalizing c with
  | nil => exact h
  | cons id ids ih => exact ih (h.settle id answer)

theorem outcome?_failAll {c : Correlator} (h : c.Linked) (id : UInt64) :
    c.failAll.outcome? id = (c.outcome? id).map fun got => got.or (some (.error .closed)) := by
  rw [failAll, outcome?_settleAll]
  by_cases hpending : id ∈ c.pending
  · have hnothing := (h.pending id).mp hpending
    rw [if_pos hpending, hnothing]
    rfl
  · rw [if_neg hpending, h.outcome?_or hpending]

theorem lastId_settleAll (ids : List UInt64) (answer : Answer) (c : Correlator) :
    (ids.foldl (fun c id => c.settle id answer) c).lastId = c.lastId := by
  induction ids generalizing c with
  | nil => rfl
  | cons id ids ih => exact ih _

/-! ## One event at a time -/

theorem resolve_true_iff {c : Correlator} {m : Message} :
    (c.resolve m).1 = true ↔ ∃ id, m.id = some id ∧ c.isPending id = true := by
  rw [resolve]
  cases m.id with
  | none => simp
  | some id =>
    by_cases h : c.isPending id = true
    · simp [h]
    · simp [h]

theorem cancel_true_iff {c : Correlator} {id : UInt64} :
    (c.cancel id).1 = true ↔ c.isPending id = true := by
  rw [cancel]
  by_cases h : c.isPending id = true
  · simp [h]
  · simp [h]

theorem step_resolve {m : Message} {id : UInt64} (h : m.id = some id) (c : Correlator) :
    c.step (.resolve m) = if c.isPending id then c.settle id (.ofResponse m) else c := by
  simp only [step, resolve, h]
  split <;> rfl

theorem step_cancel (id : UInt64) (c : Correlator) :
    c.step (.cancel id) = if c.isPending id then c.settle id .closed else c := by
  simp only [step, cancel]
  split <;> rfl

theorem result_ofResponse (m : Message) :
    (Answer.ofResponse m).result =
      match m.error with
      | some e => .error (.application e)
      | none => .ok (m.body.getD .null) := by
  rw [Answer.ofResponse]
  cases m.error <;> rfl

/-- A waiter that has got something keeps it; another one gets what the event decides. -/
theorem outcome?_step {c : Correlator} (h : c.Linked) {e : Event} (he : e.isRequest = false)
    (id : UInt64) :
    (c.step e).outcome? id = (c.outcome? id).map fun got => got.or (e.decision? id) := by
  cases e with
  | request uri payload => cases he
  | resolve m =>
    cases hid : m.id with
    | none =>
      have hstep : c.step (.resolve m) = c := by simp only [step, resolve, hid]
      rw [hstep]
      simp [Event.decision?, hid]
    | some i =>
      rw [step_resolve hid, outcome?_settle_pending h, result_ofResponse]
      simp only [Event.decision?, hid, Option.some.injEq]
  | cancel i =>
    rw [step_cancel, outcome?_settle_pending h]
    rfl
  | failAll => exact outcome?_failAll h id

theorem outcome?_request {c : Correlator} (uri : String) (payload : Json) (id : UInt64) :
    (c.step (.request uri payload)).outcome? id =
      if id = c.lastId + 1 then some none else c.outcome? id := by
  simp only [step, request, outcome?, waiter?]
  by_cases hid : id = c.lastId + 1
  · subst hid
    rw [Assoc.find?_put_self, if_pos rfl]
    rfl
  · rw [Assoc.find?_put_of_ne hid, if_neg hid]

theorem lastId_step_other {c : Correlator} {e : Event} (he : e.isRequest = false) :
    (c.step e).lastId = c.lastId := by
  cases e with
  | request uri payload => cases he
  | resolve m =>
    simp only [step, resolve]
    cases m.id with
    | none => rfl
    | some id => dsimp only; split <;> rfl
  | cancel id =>
    rw [step_cancel]
    split <;> rfl
  | failAll => exact lastId_settleAll c.pending .closed c

theorem toNat_nextId {id : UInt64} (h : id.toNat + 1 < 2 ^ 64) :
    (id + 1).toNat = id.toNat + 1 := by
  rw [UInt64.toNat_add]
  exact Nat.mod_eq_of_lt h

theorem Linked.request {c : Correlator} (h : c.Linked) (uri : String) (payload : Json)
    (fits : c.lastId.toNat + 1 < 2 ^ 64) : (c.step (.request uri payload)).Linked := by
  have hnext : (c.lastId + 1).toNat = c.lastId.toNat + 1 := toNat_nextId fits
  have hfresh : ∀ id, (c.outcome? id).isSome = true → id ≠ c.lastId + 1 := by
    rintro id hsome rfl
    have hissued := h.issued _ hsome
    omega
  have hpending : (c.step (.request uri payload)).pending = c.pending ++ [c.lastId + 1] := rfl
  refine ⟨?_, ?_, ?_⟩
  · rw [hpending, List.nodup_append]
    refine ⟨h.nodup, List.nodup_singleton _, ?_⟩
    intro id hid other hother
    have hnothing := (h.pending id).mp hid
    rw [List.mem_singleton.mp hother]
    exact hfresh id (by rw [hnothing]; rfl)
  · intro id
    rw [hpending, outcome?_request, List.mem_append, List.mem_singleton, h.pending]
    by_cases hid : id = c.lastId + 1
    · simp [hid]
    · simp [hid]
  · intro id hsome
    rw [outcome?_request] at hsome
    change id.toNat ≤ (c.lastId + 1).toNat
    by_cases hid : id = c.lastId + 1
    · rw [hid]
    · rw [if_neg hid] at hsome
      have hissued := h.issued id hsome
      omega

theorem Linked.step {c : Correlator} (h : c.Linked) (e : Event)
    (fits : c.lastId.toNat + requested [e] < 2 ^ 64) : (c.step e).Linked := by
  cases e with
  | request uri payload => exact h.request uri payload fits
  | resolve m =>
    cases hid : m.id with
    | none =>
      have hstep : c.step (.resolve m) = c := by simp only [Correlator.step, resolve, hid]
      rw [hstep]
      exact h
    | some id =>
      rw [step_resolve hid]
      split
      · exact h.settle id _
      · exact h
  | cancel id =>
    rw [step_cancel]
    split
    · exact h.settle id _
    · exact h
  | failAll => exact h.settleAll c.pending .closed

/-! ## Runs -/

theorem linked_empty : ({} : Correlator).Linked :=
  ⟨List.nodup_nil, by simp [outcome?, waiter?, Assoc.find?], by simp [outcome?, waiter?, Assoc.find?]⟩

theorem run_linked (events : List Event) (fits : requested events < 2 ^ 64) :
    (run events).Linked ∧ (run events).lastId.toNat = requested events := by
  induction events using List.reverseRecOn with
  | nil => exact ⟨linked_empty, rfl⟩
  | append_singleton events e ih =>
    rw [requested_append] at fits
    obtain ⟨hlinked, hlast⟩ := ih (by omega)
    rw [run_snoc, requested_append]
    refine ⟨hlinked.step e (by omega), ?_⟩
    by_cases he : e.isRequest = true
    · cases e with
      | request uri payload =>
        rw [← hlast]
        exact toNat_nextId (by rw [hlast]; exact fits)
      | _ => cases he
    · have hother : e.isRequest = false := by simpa using he
      rw [lastId_step_other hother, requested_other hother, hlast, Nat.add_zero]

theorem decision?_request (id : UInt64) (uri : String) (payload : Json) :
    [Event.request uri payload].findSome? (Event.decision? id) = none := rfl

/-- What the waiter of a request has got is what the events since then decide. -/
theorem outcome?_run {before after : List Event} {uri : String} {payload : Json}
    (fits : requested (before ++ .request uri payload :: after) < 2 ^ 64) {id : UInt64}
    (hid : id.toNat = requested before + 1) :
    (run (before ++ .request uri payload :: after)).outcome? id =
      some (after.findSome? (Event.decision? id)) := by
  induction after using List.reverseRecOn with
  | nil =>
    rw [requested_append, requested_request] at fits
    obtain ⟨-, hlast⟩ := run_linked before (by omega)
    have hnext : id = (run before).lastId + 1 := by
      rw [← UInt64.toNat_inj, toNat_nextId (by omega), hlast, hid]
    rw [run_snoc, outcome?_request, if_pos hnext]
    rfl
  | append_singleton after e ih =>
    have hsplit : before ++ .request uri payload :: (after ++ [e]) =
        (before ++ .request uri payload :: after) ++ [e] := by simp
    rw [hsplit, requested_append] at fits
    have hold := ih (by omega)
    obtain ⟨hlinked, hlast⟩ := run_linked (before ++ .request uri payload :: after) (by omega)
    rw [hsplit, run_snoc, List.findSome?_append]
    cases he : e.isRequest with
    | true =>
      cases e with
      | request uri' payload' =>
        have hcount := requested_around before after uri payload
        rw [requested_request] at fits
        have hne : id ≠ (run (before ++ .request uri payload :: after)).lastId + 1 := by
          intro heq
          rw [← UInt64.toNat_inj, toNat_nextId (by omega), hlast] at heq
          omega
        rw [outcome?_request, if_neg hne, hold, decision?_request, Option.or_none]
      | _ => cases he
    | false =>
      rw [outcome?_step hlinked he, hold, Option.map_some, List.findSome?_singleton]

theorem requested_of_outcome? {events : List Event} (fits : requested events < 2 ^ 64)
    {id : UInt64} (h : ((run events).outcome? id).isSome = true) :
    ∃ before uri payload after, events = before ++ .request uri payload :: after ∧
      id.toNat = requested before + 1 := by
  induction events using List.reverseRecOn with
  | nil => simp [run, outcome?, waiter?, Assoc.find?] at h
  | append_singleton events e ih =>
    rw [requested_append] at fits
    obtain ⟨hlinked, hlast⟩ := run_linked events (by omega)
    have hearlier : ((run events).outcome? id).isSome = true →
        ∃ before uri payload after, events ++ [e] = before ++ .request uri payload :: after ∧
          id.toNat = requested before + 1 := by
      intro hsome
      obtain ⟨before, uri, payload, after, rfl, hid⟩ := ih (by omega) hsome
      exact ⟨before, uri, payload, after ++ [e], by simp, hid⟩
    rw [run_snoc] at h
    cases he : e.isRequest with
    | true =>
      cases e with
      | request uri payload =>
        rw [requested_request] at fits
        rw [outcome?_request] at h
        by_cases hnew : id = (run events).lastId + 1
        · refine ⟨events, uri, payload, [], rfl, ?_⟩
          rw [hnew, toNat_nextId (by omega), hlast]
        · exact hearlier (by rwa [if_neg hnew] at h)
      | _ => cases he
    | false =>
      rw [outcome?_step hlinked he, Option.isSome_map] at h
      exact hearlier h

/-- The table holds the requests that are not decided yet. -/
theorem mem_pending_iff {events : List Event} (fits : requested events < 2 ^ 64)
    (id : UInt64) : id ∈ (run events).pending ↔ Undecided events id := by
  rw [(run_linked events fits).1.pending]
  constructor
  · intro h
    have hsome : ((run events).outcome? id).isSome = true := by
      rw [h]
      rfl
    obtain ⟨before, uri, payload, after, rfl, hid⟩ := requested_of_outcome? fits hsome
    rw [outcome?_run fits hid, Option.some.injEq] at h
    exact ⟨before, uri, payload, after, rfl, hid, h⟩
  · rintro ⟨before, uri, payload, after, rfl, hid, hnone⟩
    rw [outcome?_run fits hid, hnone]

theorem isPending_run_iff {events : List Event} (fits : requested events < 2 ^ 64)
    (id : UInt64) : (run events).isPending id = true ↔ Undecided events id := by
  rw [isPending, List.contains_iff_mem, mem_pending_iff fits]

theorem requested_before_le {before after events : List Event} (h : events = before ++ after) :
    requested before ≤ requested events := by
  rw [h, requested_append]
  omega

/-- In a run with less than 2⁶⁴ requests the n-th request has the id n, and its waiter
gets what the first event after it decides that decides anything for that id. A response
is accepted, and a cancellation has something to cancel, exactly if the request with that
id was made and has not been decided before. The table counts the requests that are not
decided. -/
theorem waiters_decided (events : List Event) (fits : requested events < 2 ^ 64) :
    (∀ before uri payload after, events = before ++ .request uri payload :: after →
      ∃ id : UInt64, id.toNat = requested before + 1 ∧
        (run before).request uri payload =
          (.request uri id payload, id, run (before ++ [.request uri payload])) ∧
        (run events).outcome? id = some (after.findSome? (Event.decision? id))) ∧
    (∀ before m after, events = before ++ .resolve m :: after →
      (((run before).resolve m).1 = true ↔ ∃ id, m.id = some id ∧ Undecided before id)) ∧
    (∀ before id after, events = before ++ .cancel id :: after →
      (((run before).cancel id).1 = true ↔ Undecided before id)) ∧
    (run events).pendingCount = {id | Undecided events id}.ncard := by
  refine ⟨?_, ?_, ?_, ?_⟩
  · rintro before uri payload after rfl
    have hcount := requested_around before after uri payload
    obtain ⟨-, hlast⟩ := run_linked before (by omega)
    have hid : ((run before).lastId + 1).toNat = requested before + 1 := by
      rw [toNat_nextId (by omega), hlast]
    refine ⟨(run before).lastId + 1, hid, ?_, outcome?_run fits hid⟩
    rw [run_snoc]
    rfl
  · rintro before m after rfl
    have hbefore := requested_before_le (rfl : before ++ .resolve m :: after = before ++ _)
    rw [resolve_true_iff]
    simp only [isPending_run_iff (lt_of_le_of_lt hbefore fits)]
  · rintro before id after rfl
    have hbefore := requested_before_le (rfl : before ++ .cancel id :: after = before ++ _)
    rw [cancel_true_iff, isPending_run_iff (lt_of_le_of_lt hbefore fits)]
  · have hset : {id | Undecided events id} = ((run events).pending.toFinset : Set UInt64) := by
      ext id
      simp only [List.coe_toFinset, Set.mem_ofPred_eq, mem_pending_iff fits]
    rw [hset, Set.ncard_coe_finset,
      List.toFinset_card_of_nodup (run_linked events fits).1.nodup]
    rfl

/-- Of two requests one is cancelled and the other one answered; what comes later for
either of them is lost, and only the third is still pending. -/
theorem waiters_decided_once :
    let before : List Event := [.request "a" .null]
    let after : List Event :=
      [.cancel 2, .resolve (.response 2 .null), .resolve (.response 1 (.bool true)),
       .cancel 1, .resolve (.response 1 .null), .request "c" .null]
    let events := before ++ .request "b" .null :: after
    requested events < 2 ^ 64 ∧
      (run events).outcome? 1 = some (some (.ok (.bool true))) ∧
      (run events).outcome? 2 = some (some (.error .closed)) ∧
      {id | Undecided events id}.ncard = 1 := by
  intro before after events
  have fits : requested events < 2 ^ 64 := by decide
  obtain ⟨waiters, -, -, count⟩ := waiters_decided events fits
  obtain ⟨first, hfirst, -, answered⟩ := waiters [] "a" .null (.request "b" .null :: after) rfl
  obtain ⟨second, hsecond, -, cancelled⟩ := waiters before "b" .null after rfl
  obtain rfl : first = 1 := UInt64.toNat_inj.mp hfirst
  obtain rfl : second = 2 := UInt64.toNat_inj.mp hsecond
  exact ⟨fits, answered, cancelled, count.symm.trans (by decide)⟩

end Correlator

end TopicClient
