import TopicClient.Proofs.Desk

/-!
# The life of a request

A request waits until the first response with its id comes in, or until the client is
closed. After that it may still take a while to return, but what it has got does not
change. Once it has returned it has neither a waiter nor an id that is pending.
-/

namespace TopicClient

namespace Desk

/-- The responses among the deeds. -/
def heard (ds : List Deed) : List Message := ds.filterMap Deed.message?

/-- The calls that were answered. -/
def answered (ds : List Deed) : List Nat := ds.filterMap Deed.answered?

/-- The calls that returned, and what. -/
def returned (ds : List Deed) : List (Nat × Except ClientError Json) :=
  ds.filterMap Deed.returned?

theorem heard_append (ds es : List Deed) : heard (ds ++ es) = heard ds ++ heard es :=
  List.filterMap_append

theorem answered_append (ds es : List Deed) : answered (ds ++ es) = answered ds ++ answered es :=
  List.filterMap_append

theorem returned_append (ds es : List Deed) : returned (ds ++ es) = returned ds ++ returned es :=
  List.filterMap_append

theorem issues_append (ds es : List Deed) : issues (ds ++ es) = issues ds ++ issues es :=
  List.filterMap_append

end Desk

/-- The first of these responses that has the id. -/
def firstFor (id : UInt64) (ms : List Message) : Option Message :=
  ms.find? fun m => m.id = some id

/-- What a call returned. -/
def resultsOf (n : Nat) (rs : List (Nat × Except ClientError Json)) :
    List (Except ClientError Json) :=
  rs.filterMap fun r => if r.1 = n then some r.2 else none

open Desk

/-- What a request has come to, after all that happened since it was taken down. -/
inductive Life (n : Nat) (id : UInt64) (past : List Deed) (k : Desk) : Prop
  | waiting (call : (n, some id) ∈ k.calls) (opened : k.closed = false)
      (got : k.correlator.outcome? id = some none) (first : firstFor id (heard past) = none)
      (silent : n ∉ answered past) (going : resultsOf n (returned past) = [])
  | answered {m : Message} (call : (n, some id) ∈ k.calls)
      (got : k.correlator.outcome? id = some (some (Correlator.resultOf m)))
      (first : firstFor id (heard past) = some m) (told : n ∈ answered past)
      (going : resultsOf n (returned past) = [])
  | dismissed (call : (n, some id) ∈ k.calls) (closed : k.closed = true)
      (got : k.correlator.outcome? id = some (some (.error .closed)))
      (silent : n ∉ answered past) (going : resultsOf n (returned past) = [])
  | ended {result : Except ClientError Json} (gone : n ∉ Assoc.keys k.calls) (old : n ≤ k.last)
      (got : k.correlator.outcome? id = none) (issued : id.toNat ≤ k.correlator.lastId.toNat)
      (back : resultsOf n (returned past) = [result])
      (reason : Unanswered result ∨ n ∈ answered past ∧
        ∃ m, firstFor id (heard past) = some m ∧ result = Correlator.resultOf m)

/-- The deed says nothing of the request. -/
structure Deed.Aside (n : Nat) (id : UInt64) (d : Deed) : Prop where
  message : ∀ m, d.message? = some m → m.id ≠ some id
  answered : d.answered? ≠ some n
  returned : ∀ r, d.returned? = some r → r.1 ≠ n

section Appending
variable {n : Nat} {id : UInt64} {past : List Deed} {d : Deed}

theorem heard_snoc (past : List Deed) (d : Deed) :
    heard (past ++ [d]) = heard past ++ d.message?.toList := by
  rw [heard_append]
  cases h : d.message? with
  | none => simp [heard, h]
  | some m => simp [heard, h]

theorem answered_snoc (past : List Deed) (d : Deed) :
    answered (past ++ [d]) = answered past ++ d.answered?.toList := by
  rw [answered_append]
  cases h : d.answered? with
  | none => simp [answered, h]
  | some m => simp [answered, h]

theorem returned_snoc (past : List Deed) (d : Deed) :
    returned (past ++ [d]) = returned past ++ d.returned?.toList := by
  rw [returned_append]
  cases h : d.returned? with
  | none => simp [returned, h]
  | some m => simp [returned, h]

theorem resultsOf_append (n : Nat) (rs more : List (Nat × Except ClientError Json)) :
    resultsOf n (rs ++ more) = resultsOf n rs ++ resultsOf n more :=
  List.filterMap_append

namespace Deed.Aside

theorem firstFor_eq (h : d.Aside n id) :
    firstFor id (Desk.heard (past ++ [d])) = firstFor id (Desk.heard past) := by
  rw [heard_snoc]
  cases hm : d.message? with
  | none => simp
  | some m =>
    have hother := h.message m hm
    simp [firstFor, List.find?_append, hother]

theorem mem_answered_iff (h : d.Aside n id) :
    n ∈ Desk.answered (past ++ [d]) ↔ n ∈ Desk.answered past := by
  rw [answered_snoc, List.mem_append, Option.mem_toList]
  exact or_iff_left h.answered

theorem resultsOf_eq (h : d.Aside n id) :
    resultsOf n (Desk.returned (past ++ [d])) = resultsOf n (Desk.returned past) := by
  rw [returned_snoc, resultsOf_append]
  cases hr : d.returned? with
  | none => simp [resultsOf]
  | some r =>
    have hother := h.returned r hr
    simp [resultsOf, hother]

end Deed.Aside

theorem aside_issued (n n' : Nat) (id id' : UInt64) : (Deed.issued n' id').Aside n id :=
  ⟨by simp [Deed.message?], by simp [Deed.answered?], by simp [Deed.returned?]⟩

theorem aside_begun (n n' : Nat) (id : UInt64) : (Deed.begun n').Aside n id :=
  ⟨by simp [Deed.message?], by simp [Deed.answered?], by simp [Deed.returned?]⟩

theorem aside_closed (n : Nat) (id : UInt64) : Deed.closed.Aside n id :=
  ⟨by simp [Deed.message?], by simp [Deed.answered?], by simp [Deed.returned?]⟩

end Appending

namespace Life
variable {n : Nat} {id : UInt64} {past : List Deed} {k l : Desk} {d : Deed}

/-- Deeds that say nothing of the request and leave it alone. -/
theorem aside (h : Life n id past k) (hd : d.Aside n id)
    (hcall : (n, some id) ∈ k.calls → (n, some id) ∈ l.calls)
    (hgone : n ≤ k.last → n ∉ Assoc.keys k.calls → n ∉ Assoc.keys l.calls)
    (hlast : k.last ≤ l.last)
    (hissued : k.correlator.lastId.toNat ≤ l.correlator.lastId.toNat)
    (hclosed : l.closed = k.closed)
    (hgot : l.correlator.outcome? id = k.correlator.outcome? id) :
    Life n id (past ++ [d]) l := by
  cases h with
  | waiting call opened got first silent going =>
    refine .waiting (hcall call) (hclosed.trans opened) (hgot.trans got) ?_ ?_ ?_
    · rw [hd.firstFor_eq, first]
    · rwa [hd.mem_answered_iff]
    · rw [hd.resultsOf_eq, going]
  | answered call got first told going =>
    refine .answered (hcall call) (hgot.trans got) ?_ ?_ ?_
    · rw [hd.firstFor_eq, first]
    · rwa [hd.mem_answered_iff]
    · rw [hd.resultsOf_eq, going]
  | dismissed call closed got silent going =>
    refine .dismissed (hcall call) (hclosed.trans closed) (hgot.trans got) ?_ ?_
    · rwa [hd.mem_answered_iff]
    · rw [hd.resultsOf_eq, going]
  | ended gone old got issued back reason =>
    refine .ended (hgone old gone) (old.trans hlast) (hgot.trans got) (issued.trans hissued)
      (hd.resultsOf_eq.trans back) ?_
    rw [hd.mem_answered_iff, hd.firstFor_eq]
    exact reason

/-- The number and the id of a request were given out. -/
theorem given (h : Life n id past k) (hs : k.Sound) :
    n ≤ k.last ∧ id.toNat ≤ k.correlator.lastId.toNat := by
  cases h with
  | waiting call | answered call | dismissed call =>
    exact ⟨hs.bounded _ call, hs.tidy.linked.issued id ((hs.waits id).mpr ⟨n, call⟩)⟩
  | ended gone old got issued => exact ⟨old, issued⟩

/-- A new call has a number of its own. -/
theorem gone_append (hold : n ≤ k.last) (gone : n ∉ Assoc.keys k.calls) (id' : Option UInt64) :
    n ∉ Assoc.keys (k.calls ++ [(k.last + 1, id')]) := by
  rw [Assoc.keys_append, List.mem_append, not_or]
  refine ⟨gone, ?_⟩
  intro hnew
  have hn : n = k.last + 1 := List.mem_singleton.mp hnew
  omega

theorem issue (h : Life n id past k) (hs : k.Sound) (uri : String) (payload : Json)
    (fits : k.correlator.lastId.toNat + 1 < 2 ^ 64) :
    Life n id (past ++ [.issued (k.last + 1) (k.correlator.lastId + 1)])
      { k with
        correlator := (k.correlator.request uri payload).2.2
        calls := k.calls ++ [(k.last + 1, some (k.correlator.lastId + 1))]
        last := k.last + 1 } := by
  obtain ⟨hold, hissued⟩ := h.given hs
  have hnext := Correlator.toNat_nextId fits
  have hother : id ≠ k.correlator.lastId + 1 := by
    rintro rfl
    omega
  refine h.aside (aside_issued _ _ _ _) ?_ ?_ (Nat.le_succ _) ?_ rfl ?_
  · intro call
    exact List.mem_append_left _ call
  · intro _ gone
    exact gone_append hold gone _
  · change k.correlator.lastId.toNat ≤ (k.correlator.lastId + 1).toNat
    omega
  · have hasks := Correlator.outcome?_request (c := k.correlator) uri payload id
    rw [if_neg hother] at hasks
    exact hasks

theorem begin (h : Life n id past k) (hs : k.Sound) :
    Life n id (past ++ [.begun (k.last + 1)])
      { k with calls := k.calls ++ [(k.last + 1, none)], last := k.last + 1 } := by
  have hold := (h.given hs).1
  refine h.aside (aside_begun _ _ _) ?_ ?_ (Nat.le_succ _) (Nat.le_refl _) rfl rfl
  · intro call
    exact List.mem_append_left _ call
  · intro _ gone
    exact gone_append hold gone _

/-- A response answers no other request than the one with its id. -/
theorem not_answered (h : Life n id past k) (hs : k.Sound) {m : Message} (hid : m.id ≠ some id) :
    k.answers? m ≠ some n := by
  intro hanswers
  cases h with
  | waiting call | answered call | dismissed call =>
    exact hid ((hs.answers?_eq_some_iff call m).mp hanswers).1
  | ended gone => exact gone (mem_keys_of_answers? hanswers)

theorem aside_heard (h : Life n id past k) (hs : k.Sound) {m : Message} (hid : m.id ≠ some id) :
    (Deed.heard m (k.answers? m)).Aside n id where
  message m' hm := by
    obtain rfl := Option.some.inj hm
    exact hid
  answered := h.not_answered hs hid
  returned r hr := by cases hr

/-- The first response with the id decides; later ones change nothing. -/
theorem hear_own (h : Life n id past k) (hs : k.Sound) {m : Message} (hid : m.id = some id) :
    Life n id (past ++ [.heard m (k.answers? m)])
      { k with correlator := (k.correlator.resolve m).2 } := by
  have hgot := Correlator.outcome?_resolve hs.tidy.linked m id
  have hheard : heard (past ++ [.heard m (k.answers? m)]) = heard past ++ [m] := heard_snoc past _
  have hreturned : returned (past ++ [.heard m (k.answers? m)]) = returned past := by
    rw [returned_snoc]
    exact List.append_nil _
  have hanswered : Desk.answered (past ++ [.heard m (k.answers? m)]) =
      Desk.answered past ++ (k.answers? m).toList := answered_snoc past _
  have hfirst : firstFor id (heard past ++ [m]) = (firstFor id (heard past)).or (some m) := by
    simp [firstFor, List.find?_append, hid]
  rw [if_pos hid] at hgot
  cases h with
  | waiting call opened got first silent going =>
    have hanswers := (hs.answers?_eq_some_iff call m).mpr ⟨hid, got⟩
    rw [got] at hgot
    refine .answered call hgot ?_ ?_ ?_
    · rw [hheard, hfirst, first]
      rfl
    · rw [hanswered, hanswers]
      exact List.mem_append_right _ (List.mem_singleton_self n)
    · rw [hreturned, going]
  | answered call got first told going =>
    rw [got] at hgot
    refine .answered call hgot ?_ ?_ ?_
    · rw [hheard, hfirst, first]
      rfl
    · rw [hanswered]
      exact List.mem_append_left _ told
    · rw [hreturned, going]
  | dismissed call closed got silent going =>
    rw [got] at hgot
    refine .dismissed call closed hgot ?_ ?_
    · rw [hanswered, hs.answers?_eq_none closed, Option.toList_none, List.append_nil]
      exact silent
    · rw [hreturned, going]
  | ended gone old got issued back reason =>
    rw [got] at hgot
    have hlast : (k.correlator.resolve m).2.lastId = k.correlator.lastId :=
      Correlator.lastId_step_other (c := k.correlator) (e := .resolve m) rfl
    have hbound : id.toNat ≤ (k.correlator.resolve m).2.lastId.toNat := by rw [hlast]; exact issued
    refine .ended gone old hgot hbound (by rw [hreturned, back]) (reason.imp_right ?_)
    rintro ⟨htold, m', hm', hresult⟩
    refine ⟨?_, m', ?_, hresult⟩
    · rw [hanswered]
      exact List.mem_append_left _ htold
    · rw [hheard, hfirst, hm']
      rfl

theorem hear (h : Life n id past k) (hs : k.Sound) (m : Message) :
    Life n id (past ++ [.heard m (k.answers? m)])
      { k with correlator := (k.correlator.resolve m).2 } := by
  by_cases hid : m.id = some id
  · exact h.hear_own hs hid
  · have hgot := Correlator.outcome?_resolve hs.tidy.linked m id
    have hlast : (k.correlator.resolve m).2.lastId = k.correlator.lastId :=
      Correlator.lastId_step_other (c := k.correlator) (e := .resolve m) rfl
    rw [if_neg hid] at hgot
    refine h.aside (h.aside_heard hs hid) (fun call => call) (fun _ gone => gone) (Nat.le_refl _)
      (by rw [hlast]) rfl ?_
    simpa using hgot

theorem close (h : Life n id past k) (hs : k.Sound) :
    Life n id (past ++ [.closed])
      { k with correlator := k.correlator.failAll, closed := true } := by
  have hgot := Correlator.outcome?_failAll hs.tidy.linked id
  have hd := aside_closed n id
  cases h with
  | waiting call opened got first silent going =>
    rw [got] at hgot
    exact .dismissed call rfl hgot (by rwa [hd.mem_answered_iff]) (by rw [hd.resultsOf_eq, going])
  | answered call got first told going =>
    rw [got] at hgot
    exact .answered call hgot (by rw [hd.firstFor_eq, first]) (by rwa [hd.mem_answered_iff])
      (by rw [hd.resultsOf_eq, going])
  | dismissed call closed got silent going =>
    rw [got] at hgot
    exact .dismissed call rfl hgot (by rwa [hd.mem_answered_iff]) (by rw [hd.resultsOf_eq, going])
  | ended gone old got issued back reason =>
    rw [got] at hgot
    have hlast : k.correlator.failAll.lastId = k.correlator.lastId :=
      Correlator.lastId_settleAll _ _ _
    have hbound : id.toNat ≤ k.correlator.failAll.lastId.toNat := by rw [hlast]; exact issued
    refine .ended gone old hgot hbound (by rw [hd.resultsOf_eq, back]) ?_
    rw [hd.mem_answered_iff, hd.firstFor_eq]
    exact reason

theorem waiter_of_call (hs : k.Sound) (call : (n, some id) ∈ k.calls) {id' : Option UInt64}
    (found : Assoc.find? n k.calls = some id') : id' = some id := by
  rw [Assoc.find?_of_mem hs.calls call, Option.some.injEq] at found
  exact found.symm

/-- A request does not return twice, and it has the reasons to return what it returns. -/
theorem finish_reason (h : Life n id past k) (hs : k.Sound) {id' : Option UInt64}
    (found : Assoc.find? n k.calls = some id') {result : Except ClientError Json}
    (may : k.MayReturn id' result) :
    id' = some id ∧ resultsOf n (returned past) = [] ∧ (Unanswered result ∨
      n ∈ Desk.answered past ∧
        ∃ m, firstFor id (heard past) = some m ∧ result = Correlator.resultOf m) := by
  cases h with
  | waiting call opened got first silent going =>
    have hid := waiter_of_call hs call found
    refine ⟨hid, going, .inl ((may id hid).resolve_right ?_)⟩
    intro hresult
    rw [got] at hresult
    cases hresult
  | @answered m call got first told going =>
    have hid := waiter_of_call hs call found
    refine ⟨hid, going, (may id hid).imp_right ?_⟩
    intro hresult
    rw [got, Option.some.injEq, Option.some.injEq] at hresult
    exact ⟨told, m, first, hresult.symm⟩
  | dismissed call closed got silent going =>
    have hid := waiter_of_call hs call found
    refine ⟨hid, going, .inl ((may id hid).elim (fun hown => hown) ?_)⟩
    intro hresult
    rw [got, Option.some.injEq, Option.some.injEq] at hresult
    exact hresult ▸ trivial
  | ended gone =>
    have hkey : n ∈ Assoc.keys k.calls := List.mem_map.mpr ⟨_, Assoc.mem_of_find? found, rfl⟩
    exact (gone hkey).elim

/-- The request itself returns. -/
theorem finish_own (h : Life n id past k) (hs : k.Sound) {id' : Option UInt64}
    (found : Assoc.find? n k.calls = some id') {result : Except ClientError Json}
    (may : k.MayReturn id' result) :
    Life n id (past ++ [.returned n result])
      { k with
        correlator := id'.elim k.correlator k.correlator.abandon
        calls := Assoc.erase n k.calls } := by
  obtain ⟨hold, hissued⟩ := h.given hs
  obtain ⟨rfl, going, reason⟩ := h.finish_reason hs found may
  have hgone : n ∉ Assoc.keys (Assoc.erase n k.calls) :=
    Assoc.find?_eq_none_iff.mp (Assoc.find?_erase_self hs.calls)
  have hheard : heard (past ++ [.returned n result]) = heard past := by
    rw [heard_snoc]
    exact List.append_nil _
  have hanswered : Desk.answered (past ++ [.returned n result]) = Desk.answered past := by
    rw [answered_snoc]
    exact List.append_nil _
  have hback : resultsOf n (returned (past ++ [.returned n result])) = [result] := by
    rw [returned_snoc, resultsOf_append, going]
    simp [resultsOf, Deed.returned?]
  have hbound : id.toNat ≤ (k.correlator.abandon id).lastId.toNat := by
    rw [lastId_abandon]
    exact hissued
  refine .ended hgone hold (hs.tidy.outcome?_abandon_self id) hbound hback ?_
  rw [hheard, hanswered]
  exact reason

/-- Another call returns. -/
theorem finish_other (h : Life n id past k) (hs : k.Sound) {n' : Nat} (hother : n' ≠ n)
    {id' : Option UInt64} (found : Assoc.find? n' k.calls = some id')
    (result : Except ClientError Json) :
    Life n id (past ++ [.returned n' result])
      { k with
        correlator := id'.elim k.correlator k.correlator.abandon
        calls := Assoc.erase n' k.calls } := by
  have hmem := Assoc.mem_of_find? found
  have hids : id' ≠ some id := by
    rintro rfl
    cases h with
    | waiting call | answered call | dismissed call => exact hother (hs.once n' n id hmem call)
    | ended gone old got =>
      have hsome := (hs.waits id).mpr ⟨n', hmem⟩
      rw [got] at hsome
      cases hsome
  have hd : (Deed.returned n' result).Aside n id := by
    refine ⟨by simp [Deed.message?], by simp [Deed.answered?], ?_⟩
    intro r hr
    obtain rfl := Option.some.inj hr
    exact hother
  refine h.aside hd ?_ ?_ (Nat.le_refl _) ?_ rfl ?_
  · intro call
    exact (Assoc.mem_erase_iff hs.calls).mpr ⟨call, hother.symm⟩
  · intro _ gone hkey
    exact gone ((Assoc.keys_erase_sublist n' k.calls).subset hkey)
  · cases id' with
    | none => exact Nat.le_refl _
    | some i =>
      change k.correlator.lastId.toNat ≤ (k.correlator.abandon i).lastId.toNat
      rw [lastId_abandon]
  · cases id' with
    | none => rfl
    | some i =>
      have hne : id ≠ i := fun heq => hids (congrArg some heq.symm)
      exact Correlator.outcome?_abandon_of_ne hne

theorem does (h : Life n id past k) (hs : k.Sound) (hd : d.Does k l)
    (fits : k.correlator.lastId.toNat + (issues [d]).length < 2 ^ 64) :
    Life n id (past ++ [d]) l := by
  cases hd with
  | issue opened uri payload => exact h.issue hs uri payload fits
  | begin => exact h.begin hs
  | hear m => exact h.hear hs m
  | close => exact h.close hs
  | @finish n' id' found result may =>
    by_cases hown : n' = n
    · subst hown
      exact h.finish_own hs found may
    · exact h.finish_other hs hown found result

theorem deeds {ds : List Deed} (h : Life n id past k) (hs : k.Sound) (hds : Deeds k ds l)
    (fits : k.correlator.lastId.toNat + (issues ds).length < 2 ^ 64) :
    Life n id (past ++ ds) l := by
  induction hds generalizing past with
  | nil =>
    rw [List.append_nil]
    exact h
  | @cons k l j d ds does rest ih =>
    rw [issues_cons, List.length_append] at fits
    have hlast := lastId_does does (by omega)
    have hstep := h.does hs does (by omega)
    have hrest := ih hstep (hs.does does (by omega)) (by omega)
    rwa [List.append_assoc] at hrest

end Life

end TopicClient
