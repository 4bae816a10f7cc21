import TopicClient.Client.Calls
import TopicClient.Proofs.Waiters

/-!
# The desk of a client

At the desk calls are taken down, responses are matched with them and results are handed
out. All else that a client does leaves the desk alone. A call with an id is a request: it
has a waiter for as long as it has not returned, and no other call has the same id.
-/

namespace TopicClient

namespace Correlator

/-- What a response gives to whoever waits for it. -/
def resultOf (m : Message) : Except ClientError Json := (Answer.ofResponse m).result

theorem outcome?_resolve {c : Correlator} (h : c.Linked) (m : Message) (id : UInt64) :
    (c.resolve m).2.outcome? id =
      (c.outcome? id).map fun got =>
        got.or (if m.id = some id then some (resultOf m) else none) := by
  have hdecides : Event.decision? id (.resolve m) =
      if m.id = some id then some (resultOf m) else none := by
    simp only [Event.decision?, resultOf, result_ofResponse]
  rw [← hdecides]
  exact outcome?_step h (e := .resolve m) rfl id

theorem outcome?_abandon_of_ne {c : Correlator} {id other : UInt64} (h : other ≠ id) :
    (c.abandon id).outcome? other = c.outcome? other := by
  have hcancel : (c.cancel id).2.outcome? other = c.outcome? other := by
    rw [cancel]
    split
    · exact outcome?_settle_of_ne h .closed c
    · rfl
  rw [← hcancel]
  simp only [abandon, dropWaiter, outcome?, waiter?, Assoc.find?_erase_of_ne h]

theorem keys_settle (id : UInt64) (answer : Answer) (c : Correlator) :
    Assoc.keys (c.settle id answer).waiters = Assoc.keys c.waiters :=
  Assoc.keys_modify id _ c.waiters

theorem keys_resolve (m : Message) (c : Correlator) :
    Assoc.keys (c.resolve m).2.waiters = Assoc.keys c.waiters := by
  rw [resolve]
  cases m.id with
  | none => rfl
  | some id =>
    dsimp only
    split
    · exact keys_settle id _ c
    · rfl

theorem keys_cancel (id : UInt64) (c : Correlator) :
    Assoc.keys (c.cancel id).2.waiters = Assoc.keys c.waiters := by
  rw [cancel]
  split
  · exact keys_settle id .closed c
  · rfl

theorem keys_settleAll (ids : List UInt64) (answer : Answer) (c : Correlator) :
    Assoc.keys (ids.foldl (fun c id => c.settle id answer) c).waiters = Assoc.keys c.waiters := by
  induction ids generalizing c with
  | nil => rfl
  | cons id ids ih => exact (ih _).trans (keys_settle id answer c)

/-- Waiters are linked with what is pending, and no id has two. -/
structure Tidy (c : Correlator) : Prop where
  linked : c.Linked
  distinct : Assoc.Distinct c.waiters

namespace Tidy
variable {c : Correlator}

theorem outcome?_abandon_self (h : c.Tidy) (id : UInt64) : (c.abandon id).outcome? id = none := by
  have hdistinct : Assoc.Distinct (c.cancel id).2.waiters := by
    rw [Assoc.Distinct, keys_cancel]
    exact h.distinct
  simp only [abandon, dropWaiter, outcome?, waiter?, Assoc.find?_erase_self hdistinct]
  rfl

/-- A waiter that is given up is gone, and every other one is still there. -/
theorem isSome_outcome?_elim (h : c.Tidy) (id : Option UInt64) (other : UInt64) :
    ((id.elim c c.abandon).outcome? other).isSome = true ↔
      some other ≠ id ∧ (c.outcome? other).isSome = true := by
  cases id with
  | none => simp
  | some id =>
    by_cases hid : other = id
    · subst hid
      simp [h.outcome?_abandon_self]
    · simp [Correlator.outcome?_abandon_of_ne hid, hid]

theorem request (h : c.Tidy) (uri : String) (payload : Json)
    (fits : c.lastId.toNat + 1 < 2 ^ 64) : (c.request uri payload).2.2.Tidy where
  linked := h.linked.request uri payload fits
  distinct := Assoc.distinct_put h.distinct

theorem resolve (h : c.Tidy) (m : Message) : (c.resolve m).2.Tidy where
  linked := h.linked.step (.resolve m) (by rw [requested_other rfl]; exact c.lastId.toNat_lt)
  distinct := by
    rw [Assoc.Distinct, keys_resolve]
    exact h.distinct

theorem failAll (h : c.Tidy) : c.failAll.Tidy where
  linked := h.linked.settleAll c.pending .closed
  distinct := by
    rw [Assoc.Distinct, Correlator.failAll, keys_settleAll]
    exact h.distinct

theorem cancel (h : c.Tidy) (id : UInt64) : (c.cancel id).2.Tidy where
  linked := h.linked.step (.cancel id) (by rw [requested_other rfl]; exact c.lastId.toNat_lt)
  distinct := by
    rw [Assoc.Distinct, keys_cancel]
    exact h.distinct

theorem not_pending_of_cancel (h : c.Tidy) (id : UInt64) : id ∉ (c.cancel id).2.pending := by
  rw [(h.cancel id).linked.pending]
  have hstep := outcome?_step h.linked (e := .cancel id) rfl id
  rw [show (c.cancel id).2.outcome? id = _ from hstep]
  cases c.outcome? id with
  | none => simp
  | some got => cases got <;> simp [Event.decision?]

/-- Whoever is gone is waited for no more. -/
theorem abandon (h : c.Tidy) (id : UInt64) : (c.abandon id).Tidy where
  distinct := Assoc.distinct_erase (h.cancel id).distinct
  linked := by
    have hcancel := (h.cancel id).linked
    have hpending : (c.abandon id).pending = (c.cancel id).2.pending := rfl
    have hother {other : UInt64} (hne : other ≠ id) :
        (c.abandon id).outcome? other = (c.cancel id).2.outcome? other := by
      simp only [Correlator.abandon, dropWaiter, outcome?, waiter?, Assoc.find?_erase_of_ne hne]
    refine ⟨hcancel.nodup, ?_, ?_⟩
    · intro other
      rw [hpending]
      by_cases hne : other = id
      · subst hne
        rw [h.outcome?_abandon_self]
        exact iff_of_false (h.not_pending_of_cancel other) (by simp)
      · rw [hother hne]
        exact hcancel.pending other
    · intro other hsome
      by_cases hne : other = id
      · subst hne
        rw [h.outcome?_abandon_self] at hsome
        cases hsome
      · rw [hother hne] at hsome
        exact hcancel.issued other hsome

end Tidy

theorem tidy_empty : ({} : Correlator).Tidy :=
  ⟨linked_empty, List.nodup_nil⟩

theorem pending_failAll {c : Correlator} (h : c.Tidy) : c.failAll.pending = [] := by
  refine List.eq_nil_iff_forall_not_mem.mpr ?_
  intro id hmem
  rw [h.failAll.linked.pending, outcome?_failAll h.linked] at hmem
  cases hgot : c.outcome? id with
  | none => simp [hgot] at hmem
  | some got => cases got <;> simp [hgot] at hmem

end Correlator

/-! ## The desk -/

/-- Of a client, what is under way at its desk. -/
structure Desk where
  correlator : Correlator
  closed : Bool
  calls : List (Nat × Option UInt64)
  last : Nat

/-- What happens at the desk: a request is taken down, or another call; a response comes in
and may answer a call; the client is closed; a call returns. -/
inductive Deed where
  | issued (call : Nat) (id : UInt64)
  | begun (call : Nat)
  | heard (m : Message) (call : Option Nat)
  | closed
  | returned (call : Nat) (result : Except ClientError Json)

namespace Desk

/-- The call that waits under an id. -/
def caller? (id : UInt64) (k : Desk) : Option Nat :=
  (k.calls.find? fun e => e.2 = some id).map Prod.fst

/-- The call that a response answers. -/
def answers? (m : Message) (k : Desk) : Option Nat :=
  if (k.correlator.resolve m).1 then m.id.bind k.caller? else none

end Desk

/-- What a call can return without an answer: its exchange has failed, its time is over, or the
client is closed. -/
def Unanswered : Except ClientError Json → Prop
  | .error (.transport _) | .error (.timeout _ _) | .error .closed => True
  | _ => False

/-- What a request may return: a failure of its own, or what its waiter has got. -/
def Desk.MayReturn (k : Desk) (id : Option UInt64) (result : Except ClientError Json) : Prop :=
  ∀ i, id = some i → Unanswered result ∨ k.correlator.outcome? i = some (some result)

namespace Deed

/-- What a deed does at the desk. -/
inductive Does (k : Desk) : Deed → Desk → Prop
  | issue (opened : k.closed = false) (uri : String) (payload : Json) :
      Does k (.issued (k.last + 1) (k.correlator.lastId + 1))
        { k with
          correlator := (k.correlator.request uri payload).2.2
          calls := k.calls ++ [(k.last + 1, some (k.correlator.lastId + 1))]
          last := k.last + 1 }
  | begin : Does k (.begun (k.last + 1))
      { k with calls := k.calls ++ [(k.last + 1, none)], last := k.last + 1 }
  | hear (m : Message) : Does k (.heard m (k.answers? m))
      { k with correlator := (k.correlator.resolve m).2 }
  | close : Does k .closed { k with correlator := k.correlator.failAll, closed := true }
  | finish {n : Nat} {id : Option UInt64} (found : Assoc.find? n k.calls = some id)
      {result : Except ClientError Json} (may : k.MayReturn id result) :
      Does k (.returned n result)
        { k with
          correlator := id.elim k.correlator k.correlator.abandon
          calls := Assoc.erase n k.calls }

def issued? : Deed → Option (Nat × UInt64)
  | issued n id => some (n, id)
  | _ => none

def message? : Deed → Option Message
  | heard m _ => some m
  | _ => none

def answered? : Deed → Option Nat
  | heard _ call => call
  | _ => none

def returned? : Deed → Option (Nat × Except ClientError Json)
  | returned n result => some (n, result)
  | _ => none

end Deed

/-- One deed after another. -/
inductive Deeds : Desk → List Deed → Desk → Prop
  | nil (k : Desk) : Deeds k [] k
  | cons {k l j : Desk} {d : Deed} {ds : List Deed} (does : Deed.Does k d l)
      (rest : Deeds l ds j) : Deeds k (d :: ds) j

theorem Deeds.trans {k l j : Desk} {ds es : List Deed} (h : Deeds k ds l) (h' : Deeds l es j) :
    Deeds k (ds ++ es) j := by
  induction h with
  | nil => exact h'
  | cons does _ ih => exact .cons does (ih h')

theorem Deeds.one {k l : Desk} {d : Deed} (does : d.Does k l) : Deeds k [d] l :=
  .cons does (.nil l)

/-! ## The invariant -/

namespace Desk

/-- Calls have numbers of their own, requests have ids of their own, and exactly the
requests have waiters. -/
structure Sound (k : Desk) : Prop where
  tidy : k.correlator.Tidy
  calls : Assoc.Distinct k.calls
  bounded : ∀ e ∈ k.calls, e.1 ≤ k.last
  waits : ∀ id, (k.correlator.outcome? id).isSome = true ↔ ∃ n, (n, some id) ∈ k.calls
  once : ∀ n n' id, (n, some id) ∈ k.calls → (n', some id) ∈ k.calls → n = n'
  shut : k.closed = true → k.correlator.pending = []

variable {k l : Desk} {d : Deed}

theorem Sound.caller?_eq (h : k.Sound) {n : Nat} {id : UInt64} (hmem : (n, some id) ∈ k.calls) :
    k.caller? id = some n := by
  rw [caller?]
  cases hfind : k.calls.find? fun e => e.2 = some id with
  | none =>
    have hnot := List.find?_eq_none.mp hfind _ hmem
    simp at hnot
  | some e =>
    obtain ⟨n', id'⟩ := e
    have hid : id' = some id := by simpa using List.find?_some hfind
    subst hid
    have hsame := h.once n' n id (List.mem_of_find?_eq_some hfind) hmem
    rw [hsame]
    rfl

/-- A response answers the call that its id is pending for. -/
theorem Sound.answers?_eq_some_iff (h : k.Sound) {n : Nat} {id : UInt64}
    (hmem : (n, some id) ∈ k.calls) (m : Message) :
    k.answers? m = some n ↔ m.id = some id ∧ k.correlator.outcome? id = some none := by
  have hresolve := Correlator.resolve_true_iff (c := k.correlator) (m := m)
  rw [answers?]
  constructor
  · intro hanswers
    split at hanswers
    · rename_i htrue
      obtain ⟨i, hi, hpending⟩ := hresolve.mp htrue
      rw [h.tidy.linked.isPending_iff] at hpending
      obtain ⟨n', hmem'⟩ := (h.waits i).mp (by rw [hpending]; rfl)
      rw [hi, Option.bind_some, h.caller?_eq hmem', Option.some.injEq] at hanswers
      subst hanswers
      have hsame := Assoc.find?_of_mem h.calls hmem
      rw [Assoc.find?_of_mem h.calls hmem', Option.some.injEq, Option.some.injEq] at hsame
      subst hsame
      exact ⟨hi, hpending⟩
    · cases hanswers
  · rintro ⟨hid, hpending⟩
    have htrue := hresolve.mpr ⟨id, hid, (h.tidy.linked.isPending_iff id).mpr hpending⟩
    rw [if_pos htrue, hid, Option.bind_some, h.caller?_eq hmem]

theorem mem_keys_of_answers? {n : Nat} {m : Message} (h : k.answers? m = some n) :
    n ∈ Assoc.keys k.calls := by
  rw [answers?] at h
  split at h
  · obtain ⟨id, -, hcaller⟩ := Option.bind_eq_some_iff.mp h
    obtain ⟨e, hfind, rfl⟩ := Option.map_eq_some_iff.mp hcaller
    exact List.mem_map.mpr ⟨e, List.mem_of_find?_eq_some hfind, rfl⟩
  · cases h

theorem Sound.answers?_eq_none (h : k.Sound) (hshut : k.closed = true) (m : Message) :
    k.answers? m = none := by
  rw [answers?, if_neg]
  rw [Correlator.resolve_true_iff]
  rintro ⟨id, -, hpending⟩
  rw [h.tidy.linked.isPending_iff, ← h.tidy.linked.pending, h.shut hshut] at hpending
  cases hpending

theorem Sound.fresh (h : k.Sound) (fits : k.correlator.lastId.toNat + 1 < 2 ^ 64) {n : Nat}
    {id : UInt64} (hmem : (n, some id) ∈ k.calls) :
    n ≠ k.last + 1 ∧ id ≠ k.correlator.lastId + 1 := by
  have hbound := h.bounded _ hmem
  have hissued := h.tidy.linked.issued id ((h.waits id).mpr ⟨n, hmem⟩)
  have hnext := Correlator.toNat_nextId fits
  constructor
  · intro heq
    dsimp only at hbound
    omega
  · rintro rfl
    omega

theorem distinct_snoc {calls : List (Nat × Option UInt64)} (h : Assoc.Distinct calls) {last : Nat}
    (hbound : ∀ e ∈ calls, e.1 ≤ last) (id : Option UInt64) :
    Assoc.Distinct (calls ++ [(last + 1, id)]) := by
  rw [Assoc.Distinct, Assoc.keys_append]
  refine List.nodup_append.mpr ⟨h, List.nodup_singleton _, ?_⟩
  intro n hn n' hn' heq
  obtain ⟨e, he, rfl⟩ := List.mem_map.mp hn
  have hold := hbound e he
  simp only [Assoc.keys_cons, Assoc.keys_nil, List.mem_singleton] at hn'
  omega

theorem bounded_snoc {calls : List (Nat × Option UInt64)} {last : Nat}
    (hbound : ∀ e ∈ calls, e.1 ≤ last) (id : Option UInt64) :
    ∀ e ∈ calls ++ [(last + 1, id)], e.1 ≤ last + 1 := by
  intro e he
  rcases List.mem_append.mp he with he | he
  · exact Nat.le_succ_of_le (hbound e he)
  · obtain rfl := List.mem_singleton.mp he
    exact Nat.le_refl _

theorem Sound.issue (h : k.Sound) (opened : k.closed = false) (uri : String) (payload : Json)
    (fits : k.correlator.lastId.toNat + 1 < 2 ^ 64) :
    Sound { k with
      correlator := (k.correlator.request uri payload).2.2
      calls := k.calls ++ [(k.last + 1, some (k.correlator.lastId + 1))]
      last := k.last + 1 } where
  tidy := h.tidy.request uri payload fits
  calls := distinct_snoc h.calls h.bounded _
  bounded := bounded_snoc h.bounded _
  waits id := by
    have hasks := Correlator.outcome?_request (c := k.correlator) uri payload id
    rw [show (k.correlator.request uri payload).2.2.outcome? id = _ from hasks]
    simp only [List.mem_append, List.mem_singleton, Prod.mk.injEq, Option.some.injEq]
    by_cases hid : id = k.correlator.lastId + 1
    · rw [if_pos hid]
      exact iff_of_true rfl ⟨k.last + 1, .inr ⟨rfl, hid⟩⟩
    · rw [if_neg hid, h.waits]
      simp only [hid, and_false, or_false]
  once n n' id hmem hmem' := by
    simp only [List.mem_append, List.mem_singleton, Prod.mk.injEq, Option.some.injEq] at hmem hmem'
    rcases hmem with hmem | ⟨hn, hid⟩
    · rcases hmem' with hmem' | ⟨-, hid'⟩
      · exact h.once n n' id hmem hmem'
      · exact ((h.fresh fits hmem).2 hid').elim
    · rcases hmem' with hmem' | ⟨hn', -⟩
      · exact ((h.fresh fits hmem').2 hid).elim
      · rw [hn, hn']
  shut hclosed := by
    rw [show k.closed = true from hclosed] at opened
    cases opened

theorem Sound.begin (h : k.Sound) :
    Sound { k with calls := k.calls ++ [(k.last + 1, none)], last := k.last + 1 } where
  tidy := h.tidy
  calls := distinct_snoc h.calls h.bounded _
  bounded := bounded_snoc h.bounded _
  waits id := by
    rw [h.waits]
    simp
  once n n' id hmem hmem' := by
    simp only [List.mem_append, List.mem_singleton, Prod.mk.injEq, reduceCtorEq, and_false,
      or_false] at hmem hmem'
    exact h.once n n' id hmem hmem'
  shut := h.shut

theorem Sound.hear (h : k.Sound) (m : Message) :
    Sound { k with correlator := (k.correlator.resolve m).2 } where
  tidy := h.tidy.resolve m
  calls := h.calls
  bounded := h.bounded
  waits id := by
    rw [Correlator.outcome?_resolve h.tidy.linked, Option.isSome_map]
    exact h.waits id
  once := h.once
  shut hclosed := by
    refine List.eq_nil_iff_forall_not_mem.mpr ?_
    intro id hmem
    rw [(h.tidy.resolve m).linked.pending, Correlator.outcome?_resolve h.tidy.linked] at hmem
    have hnone : k.correlator.outcome? id ≠ some none := by
      rw [ne_eq, ← h.tidy.linked.pending, h.shut hclosed]
      exact List.not_mem_nil
    cases hgot : k.correlator.outcome? id with
    | none => simp [hgot] at hmem
    | some got =>
      cases got with
      | none => exact hnone hgot
      | some result => simp [hgot] at hmem

theorem Sound.close (h : k.Sound) :
    Sound { k with correlator := k.correlator.failAll, closed := true } where
  tidy := h.tidy.failAll
  calls := h.calls
  bounded := h.bounded
  waits id := by
    rw [Correlator.outcome?_failAll h.tidy.linked, Option.isSome_map]
    exact h.waits id
  once := h.once
  shut _ := Correlator.pending_failAll h.tidy

/-- A call that is off the desk takes its id with it. -/
theorem Sound.exists_mem_erase (h : k.Sound) {n : Nat} {id : Option UInt64}
    (found : Assoc.find? n k.calls = some id) (other : UInt64) :
    (∃ n', (n', some other) ∈ Assoc.erase n k.calls) ↔
      some other ≠ id ∧ ∃ n', (n', some other) ∈ k.calls := by
  constructor
  · rintro ⟨n', hmem⟩
    obtain ⟨hold, hne⟩ := (Assoc.mem_erase_iff h.calls).mp hmem
    refine ⟨?_, n', hold⟩
    rintro rfl
    exact hne (h.once n' n other hold (Assoc.mem_of_find? found))
  · rintro ⟨hother, n', hmem⟩
    refine ⟨n', (Assoc.mem_erase_iff h.calls).mpr ⟨hmem, ?_⟩⟩
    rintro rfl
    have hfound := Assoc.find?_of_mem h.calls hmem
    exact hother (Option.some.inj (hfound.symm.trans found))

theorem Sound.finish (h : k.Sound) {n : Nat} {id : Option UInt64}
    (found : Assoc.find? n k.calls = some id) :
    Sound { k with
      correlator := id.elim k.correlator k.correlator.abandon
      calls := Assoc.erase n k.calls } where
  tidy := by
    cases id with
    | none => exact h.tidy
    | some id => exact h.tidy.abandon id
  calls := Assoc.distinct_erase h.calls
  bounded e he := h.bounded e ((Assoc.erase_sublist n k.calls).subset he)
  waits other := by rw [h.tidy.isSome_outcome?_elim, h.waits, h.exists_mem_erase found]
  once n' n'' i hmem hmem' :=
    h.once n' n'' i ((Assoc.erase_sublist n k.calls).subset hmem)
      ((Assoc.erase_sublist n k.calls).subset hmem')
  shut hclosed := by
    have hshut := h.shut hclosed
    cases id with
    | none => exact hshut
    | some id =>
      have hnot : k.correlator.isPending id = false := by simp [Correlator.isPending, hshut]
      simp only [Option.elim_some, Correlator.abandon, Correlator.cancel, hnot]
      exact hshut

/-- The requests that are taken down. -/
def issues (ds : List Deed) : List (Nat × UInt64) := ds.filterMap Deed.issued?

theorem issues_cons (d : Deed) (ds : List Deed) : issues (d :: ds) = issues [d] ++ issues ds :=
  List.filterMap_append (l := [d])

theorem Sound.does (h : k.Sound) (hd : d.Does k l)
    (fits : k.correlator.lastId.toNat + (issues [d]).length < 2 ^ 64) : l.Sound := by
  cases hd with
  | issue opened uri payload => exact h.issue opened uri payload fits
  | begin => exact h.begin
  | hear m => exact h.hear m
  | close => exact h.close
  | finish found => exact h.finish found

theorem lastId_abandon (c : Correlator) (id : UInt64) : (c.abandon id).lastId = c.lastId :=
  Correlator.lastId_step_other (c := c) (e := .cancel id) rfl

theorem lastId_does (hd : d.Does k l)
    (fits : k.correlator.lastId.toNat + (issues [d]).length < 2 ^ 64) :
    l.correlator.lastId.toNat = k.correlator.lastId.toNat + (issues [d]).length := by
  cases hd with
  | issue => exact Correlator.toNat_nextId fits
  | begin => rfl
  | hear m =>
    have hsame := Correlator.lastId_step_other (c := k.correlator) (e := .resolve m) rfl
    exact congrArg UInt64.toNat hsame
  | close => exact congrArg UInt64.toNat (Correlator.lastId_settleAll _ _ _)
  | @finish n id found result may =>
    cases id with
    | none => rfl
    | some id => exact congrArg UInt64.toNat (lastId_abandon _ id)

theorem Sound.deeds {ds : List Deed} (h : k.Sound) (hds : Deeds k ds l)
    (fits : k.correlator.lastId.toNat + (issues ds).length < 2 ^ 64) :
    l.Sound ∧ l.correlator.lastId.toNat = k.correlator.lastId.toNat + (issues ds).length := by
  induction hds with
  | nil => exact ⟨h, rfl⟩
  | cons does rest ih =>
    rw [issues_cons, List.length_append] at fits ⊢
    have hlast := lastId_does does (by omega)
    obtain ⟨hsound, hlast'⟩ := ih (h.does does (by omega)) (by omega)
    exact ⟨hsound, by omega⟩

/-- A call that is answered or returns has been taken down. -/
theorem Sound.last_does (h : k.Sound) (hd : d.Does k l) :
    k.last ≤ l.last ∧ (∀ n, d.answered? = some n → n ≤ k.last) ∧
      ∀ r, d.returned? = some r → r.1 ≤ k.last := by
  have hknown {n : Nat} (hkey : n ∈ Assoc.keys k.calls) : n ≤ k.last := by
    obtain ⟨e, he, rfl⟩ := List.mem_map.mp hkey
    exact h.bounded e he
  cases hd with
  | issue | begin => exact ⟨Nat.le_succ _, by simp [Deed.answered?], by simp [Deed.returned?]⟩
  | hear m =>
    exact ⟨Nat.le_refl _, fun n hn => hknown (mem_keys_of_answers? hn), by simp [Deed.returned?]⟩
  | close => exact ⟨Nat.le_refl _, by simp [Deed.answered?], by simp [Deed.returned?]⟩
  | @finish n id found result =>
    refine ⟨Nat.le_refl _, by simp [Deed.answered?], ?_⟩
    intro r hr
    obtain rfl := Option.some.inj hr
    exact h.bounded _ (Assoc.mem_of_find? found)

end Desk

end TopicClient
