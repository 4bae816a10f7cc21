import Mathlib.Algebra.Group.Nat.Defs
import TopicClient.Proofs.StatusLog

/-!
# The history of a status

A status is told by what was done to it and when. Its counts, its flags and its log are functions
of the operations so far: the log is the end of all that was recorded, and a connection has
answered if a pong came since the latest attempt or loss. The times in the log follow the clock
until it has gone through all the words that there are, and so do the counts.
-/

namespace TopicClient

/-- What can be done to a status. A bare event has an empty detail. -/
inductive StatusOp where
  | attempt
  | opened
  | disconnected
  | message (isPong : Bool)
  | record (name : String) (detail : Detail)
deriving DecidableEq, Repr

namespace StatusOp

abbrev pong : StatusOp := message true

def isMessage : StatusOp → Bool
  | message _ => true
  | _ => false

/-- After an attempt or a loss the connection has not answered. -/
def isReset : StatusOp → Bool
  | attempt | disconnected => true
  | _ => false

end StatusOp

namespace ConnectionStatus

def perform (s : ConnectionStatus) : Nat × StatusOp → ConnectionStatus
  | (now, .attempt) => s.beginAttempt now
  | (now, .opened) => s.markOpened now
  | (_, .disconnected) => s.markDisconnected
  | (now, .message isPong) => (s.onMessage now isPong).2
  | (now, .record name detail) => s.record now name detail

/-- The status that was made at a moment and to which all this was done since. -/
def after (start : Nat) (ops : List (Nat × StatusOp)) : ConnectionStatus :=
  ops.foldl perform (.start start)

/-! ## What the operations tell -/

def attempts (ops : List (Nat × StatusOp)) : Nat := ops.countP fun e => e.2 = .attempt

def payloads (ops : List (Nat × StatusOp)) : Nat := ops.countP fun e => e.2.isMessage

def everAnswered (ops : List (Nat × StatusOp)) : Bool := ops.any fun e => e.2 = .pong

/-- Whether a pong has come since the latest attempt or loss. -/
def answered (ops : List (Nat × StatusOp)) : Bool :=
  everAnswered (ops.rtakeWhile fun e => !e.2.isReset)

/-- When the latest attempt began, and before the first one when the status was made. -/
def attemptedAt (start : Nat) (ops : List (Nat × StatusOp)) : Nat :=
  ((ops.filter fun e => e.2 = .attempt).getLast?.map Prod.fst).getD start

/-- The name and the detail that an operation records. -/
def entryOf? (before : List (Nat × StatusOp)) : StatusOp → Option (String × Detail)
  | .attempt => some ("connect", {})
  | .opened => some ("open", {})
  | .disconnected => none
  | .message isPong => if isPong && !answered before then some ("pong", {}) else none
  | .record name detail => some (name, detail)

/-- What an operation records, with the milliseconds since the status was made and since the
latest attempt. -/
def event? (start : Nat) (before : List (Nat × StatusOp)) (e : Nat × StatusOp) :
    Option StatusEvent :=
  (entryOf? before e.2).map fun entry =>
    ⟨entry.1, UInt64.ofNat (e.1 - start), UInt64.ofNat (e.1 - attemptedAt start (before ++ [e])),
      entry.2⟩

/-- All that operations record after earlier ones, in order. -/
def recorded (start : Nat) (before : List (Nat × StatusOp)) :
    List (Nat × StatusOp) → List StatusEvent
  | [] => []
  | e :: rest => (event? start before e).toList ++ recorded start (before ++ [e]) rest

section Snoc
variable (start : Nat) (ops : List (Nat × StatusOp)) (e : Nat × StatusOp)

theorem after_snoc : after start (ops ++ [e]) = (after start ops).perform e := by
  rw [after, List.foldl_append]
  rfl

theorem attempts_append (more : List (Nat × StatusOp)) :
    attempts (ops ++ more) = attempts ops + attempts more :=
  List.countP_append

theorem attempts_snoc :
    attempts (ops ++ [e]) = attempts ops + if e.2 = .attempt then 1 else 0 := by
  rw [attempts_append]
  simp [attempts, List.countP_singleton]

theorem payloads_snoc :
    payloads (ops ++ [e]) = payloads ops + if e.2.isMessage then 1 else 0 := by
  rw [payloads, List.countP_append]
  simp [payloads, List.countP_singleton]

theorem everAnswered_append (more : List (Nat × StatusOp)) :
    everAnswered (ops ++ more) = (everAnswered ops || everAnswered more) :=
  List.any_append

theorem answered_snoc :
    answered (ops ++ [e]) = (!e.2.isReset && (answered ops || decide (e.2 = .pong))) := by
  rw [answered, List.rtakeWhile_concat]
  cases e.2.isReset <;> simp [answered, everAnswered]

theorem attemptedAt_snoc :
    attemptedAt start (ops ++ [e]) = if e.2 = .attempt then e.1 else attemptedAt start ops := by
  rw [attemptedAt, List.filter_append]
  by_cases h : e.2 = .attempt
  · simp [h]
  · simp [h, attemptedAt]

theorem recorded_snoc (before : List (Nat × StatusOp)) :
    recorded start before (ops ++ [e]) =
      recorded start before ops ++ (event? start (before ++ ops) e).toList := by
  induction ops generalizing before with
  | nil => simp [recorded]
  | cons first rest ih =>
    rw [List.cons_append, recorded, ih, recorded, List.append_assoc, List.append_assoc]
    rfl

end Snoc

theorem everAnswered_of_answered {ops : List (Nat × StatusOp)} (h : answered ops = true) :
    everAnswered ops = true := by
  rw [answered, everAnswered, List.any_eq_true] at h
  obtain ⟨e, he, hpong⟩ := h
  exact List.any_eq_true.mpr ⟨e, (List.rtakeWhile_suffix _ _).subset he, hpong⟩

/-! ## One operation -/

section Step
variable (s : ConnectionStatus) (e : Nat × StatusOp)

theorem perform_message (now : Nat) (isPong : Bool) :
    s.perform (now, .message isPong) =
      if isPong && !s.connected then
        { s with
          messages := s.messages + 1
          connected := true
          success := true
          retries := s.connects }.note now "pong"
      else { s with messages := s.messages + 1 } := by
  simp only [perform, onMessage]
  split <;> rfl

theorem perform_startedAt : (s.perform e).startedAt = s.startedAt := by
  obtain ⟨now, op⟩ := e
  cases op with
  | message isPong =>
    rw [perform_message]
    split <;> rfl
  | _ => rfl

theorem perform_connectStartedAt :
    (s.perform e).connectStartedAt = if e.2 = .attempt then e.1 else s.connectStartedAt := by
  obtain ⟨now, op⟩ := e
  cases op with
  | message isPong =>
    rw [perform_message]
    split <;> rfl
  | _ => rfl

theorem perform_connected :
    (s.perform e).connected = (!e.2.isReset && (s.connected || decide (e.2 = .pong))) := by
  obtain ⟨now, op⟩ := e
  cases op with
  | message isPong =>
    rw [perform_message]
    cases isPong <;> cases s.connected <;> rfl
  | attempt | disconnected => rfl
  | opened | record name detail => exact (Bool.or_false _).symm

/-- Only a pong on a connection that has not answered yet counts. -/
theorem perform_success :
    (s.perform e).success = (s.success || (decide (e.2 = .pong) && !s.connected)) := by
  obtain ⟨now, op⟩ := e
  cases op with
  | message isPong =>
    rw [perform_message]
    cases isPong <;> cases s.connected <;> simp [note, record]
  | _ => exact (Bool.or_false _).symm

theorem perform_retries :
    (s.perform e).retries =
      if e.2 = .pong ∧ s.connected = false then s.connects else s.retries := by
  obtain ⟨now, op⟩ := e
  cases op with
  | message isPong =>
    rw [perform_message]
    cases isPong <;> cases s.connected <;> rfl
  | _ => rfl

theorem perform_messages :
    (s.perform e).messages = if e.2.isMessage then s.messages + 1 else s.messages := by
  obtain ⟨now, op⟩ := e
  cases op with
  | message isPong =>
    rw [perform_message]
    split <;> rfl
  | _ => rfl

theorem perform_connects :
    (s.perform e).connects = if e.2 = .attempt then s.connects + 1 else s.connects := by
  obtain ⟨now, op⟩ := e
  cases op with
  | message isPong =>
    rw [perform_message]
    split <;> rfl
  | _ => rfl

end Step

/-! ## The status after a run -/

/-- What a status shows is what was done to it. -/
structure Told (start : Nat) (ops : List (Nat × StatusOp)) (s : ConnectionStatus) : Prop where
  startedAt : s.startedAt = start
  connectStartedAt : s.connectStartedAt = attemptedAt start ops
  connected : s.connected = answered ops
  success : s.success = everAnswered ops
  messages : s.messages = .ofNat (payloads ops)
  connects : s.connects = .ofNat (attempts ops)
  events : s.events = (recorded start [] ops).rtake eventLimit

section Step
variable {start : Nat} {ops : List (Nat × StatusOp)} {s : ConnectionStatus}

theorem Told.room (h : Told start ops s) : s.events.length ≤ eventLimit := by
  rw [h.events]
  exact length_rtake_le _ _

/-- What is recorded comes to the end of the log. -/
theorem Told.events_record (h : Told start ops s) {e : Nat × StatusOp} {t : ConnectionStatus}
    {name : String} {detail : Detail} (hentry : entryOf? ops e.2 = some (name, detail))
    (hlog : t.events = s.events) (hstart : t.startedAt = start)
    (hattempt : t.connectStartedAt = attemptedAt start (ops ++ [e])) :
    (t.record e.1 name detail).events = (recorded start [] (ops ++ [e])).rtake eventLimit := by
  have htold : event? start ops e = some (t.told e.1 name detail) := by
    rw [event?, hentry, Option.map_some, told, hstart, hattempt]
  have hroom : t.events.length ≤ eventLimit := hlog ▸ h.room
  rw [record_events hroom, hlog, h.events, rtake_rtake_append, recorded_snoc, List.nil_append,
    htold]
  rfl

/-- An operation that records nothing leaves the log. -/
theorem Told.events_quiet (h : Told start ops s) {e : Nat × StatusOp}
    (hentry : entryOf? ops e.2 = none) :
    s.events = (recorded start [] (ops ++ [e])).rtake eventLimit := by
  have hnone : event? start ops e = none := by rw [event?, hentry, Option.map_none]
  rw [recorded_snoc, List.nil_append, hnone, Option.toList_none, List.append_nil, h.events]

theorem Told.events_perform (h : Told start ops s) (e : Nat × StatusOp) :
    (s.perform e).events = (recorded start [] (ops ++ [e])).rtake eventLimit := by
  obtain ⟨now, op⟩ := e
  have hkept (hop : op ≠ .attempt) :
      s.connectStartedAt = attemptedAt start (ops ++ [(now, op)]) := by
    rw [attemptedAt_snoc, if_neg hop, h.connectStartedAt]
  cases op with
  | attempt =>
    let begun : ConnectionStatus :=
      { s with
        connects := s.connects + 1
        opened := false
        connected := false
        connectStartedAt := now }
    have hnow : begun.connectStartedAt = attemptedAt start (ops ++ [(now, .attempt)]) := by
      rw [attemptedAt_snoc, if_pos rfl]
    exact h.events_record (t := begun) rfl rfl h.startedAt hnow
  | opened => exact h.events_record rfl rfl h.startedAt (hkept nofun)
  | disconnected => exact h.events_quiet rfl
  | record name detail => exact h.events_record rfl rfl h.startedAt (hkept nofun)
  | message isPong =>
    have hentry : entryOf? ops (.message isPong) =
        if isPong && !s.connected then some ("pong", {}) else none := by
      rw [h.connected]
      rfl
    rw [perform_message]
    split
    next hfirst =>
      exact h.events_record (hentry.trans (if_pos hfirst)) rfl h.startedAt (hkept nofun)
    next hagain => exact h.events_quiet (hentry.trans (if_neg hagain))

theorem Told.perform (h : Told start ops s) (e : Nat × StatusOp) :
    Told start (ops ++ [e]) (s.perform e) where
  startedAt := (perform_startedAt s e).trans h.startedAt
  connectStartedAt := by rw [perform_connectStartedAt, attemptedAt_snoc, h.connectStartedAt]
  connected := by rw [perform_connected, answered_snoc, h.connected]
  success := by
    rw [perform_success, everAnswered_append, h.success, h.connected]
    cases hanswered : answered ops with
    | true => simp [everAnswered_of_answered hanswered]
    | false => simp [everAnswered]
  messages := by
    rw [perform_messages, payloads_snoc, h.messages]
    split
    · exact (UInt64.ofNat_add _ 1).symm
    · rfl
  connects := by
    rw [perform_connects, attempts_snoc, h.connects]
    split
    · exact (UInt32.ofNat_add _ 1).symm
    · rfl
  events := h.events_perform e

end Step

theorem told_after (start : Nat) (ops : List (Nat × StatusOp)) :
    Told start ops (after start ops) := by
  induction ops using List.reverseRecOn with
  | nil => exact ⟨rfl, rfl, rfl, rfl, rfl, rfl, (rtake_of_length_le (Nat.zero_le _)).symm⟩
  | append_singleton ops e ih =>
    rw [after_snoc]
    exact ih.perform e

/-! ## Times -/

section Times
variable {start : Nat} {before ops : List (Nat × StatusOp)}

theorem sinceStarts_sublist (start : Nat) (before ops : List (Nat × StatusOp)) :
    List.Sublist ((recorded start before ops).map StatusEvent.sinceStart)
      (ops.map fun e => UInt64.ofNat (e.1 - start)) := by
  induction ops generalizing before with
  | nil => exact .slnil
  | cons e rest ih =>
    rw [recorded, List.map_append, List.map_cons]
    cases hentry : entryOf? before e.2 with
    | none => simpa [event?, hentry] using (ih _).cons _
    | some entry =>
      simpa [event?, hentry] using (ih (before ++ [e])).cons_cons (UInt64.ofNat (e.1 - start))

theorem sinceStart_pairwise (clock : (ops.map Prod.fst).Pairwise (· ≤ ·))
    (short : ∀ e ∈ ops, e.1 - start < 2 ^ 64) :
    (recorded start before ops).Pairwise fun x y => x.sinceStart ≤ y.sinceStart := by
  suffices h : (ops.map fun e => UInt64.ofNat (e.1 - start)).Pairwise (· ≤ ·) from
    List.pairwise_map.mp (h.sublist (sinceStarts_sublist start before ops))
  rw [List.pairwise_map] at clock ⊢
  refine clock.imp_of_mem fun {e f} he hf hle => ?_
  have he := short e he
  have hf := short f hf
  rw [UInt64.le_iff_toNat_le, UInt64.toNat_ofNat_of_lt' he, UInt64.toNat_ofNat_of_lt' hf]
  omega

theorem le_attemptedAt (hlate : ∀ e ∈ ops, start ≤ e.1) : start ≤ attemptedAt start ops := by
  rw [attemptedAt]
  cases hlast : (ops.filter fun e => e.2 = .attempt).getLast? with
  | none => exact le_rfl
  | some e => exact hlate e (List.mem_filter.mp (List.mem_of_getLast? hlast)).1

theorem sinceConnect_le (hbefore : ∀ e ∈ before, start ≤ e.1) (hops : ∀ e ∈ ops, start ≤ e.1)
    (short : ∀ e ∈ ops, e.1 - start < 2 ^ 64) :
    ∀ x ∈ recorded start before ops, x.sinceConnect ≤ x.sinceStart := by
  induction ops generalizing before with
  | nil => nofun
  | cons e rest ih =>
    have hsofar : ∀ f ∈ before ++ [e], start ≤ f.1 := by
      intro f hf
      rcases List.mem_append.mp hf with hf | hf
      · exact hbefore f hf
      · exact hops f (List.mem_singleton.mp hf ▸ List.mem_cons_self)
    intro x hx
    rcases List.mem_append.mp hx with hx | hx
    · obtain ⟨entry, -, rfl⟩ := Option.map_eq_some_iff.mp (Option.mem_toList.mp hx)
      have he := short e List.mem_cons_self
      have hattempt := le_attemptedAt hsofar
      have hless : e.1 - attemptedAt start (before ++ [e]) < 2 ^ 64 := by omega
      rw [UInt64.le_iff_toNat_le, UInt64.toNat_ofNat_of_lt' he, UInt64.toNat_ofNat_of_lt' hless]
      omega
    · exact ih hsofar (fun f hf => hops f (List.mem_cons_of_mem _ hf))
        (fun f hf => short f (List.mem_cons_of_mem _ hf)) x hx

end Times

/-- The log is the end of all that was recorded, and the counts and flags follow the operations,
the counts as long as there are words for them. On a clock that has not gone through all its
words, the times in the log are in order and no attempt is older than the status. A pong is told
to be the first one just if none came since the latest attempt or loss. -/
theorem after_told_by_operations (start : Nat) (ops : List (Nat × StatusOp))
    (clock : (start :: ops.map Prod.fst).Pairwise (· ≤ ·)) :
    let s := after start ops
    let all := recorded start [] ops
    (s.events = all.drop (all.length - 256) ∧ s.events.length = min all.length 256) ∧
    ((∀ e ∈ ops, e.1 - start < 2 ^ 64) →
      s.events.Pairwise (fun x y => x.sinceStart ≤ y.sinceStart) ∧
        ∀ x ∈ s.events, x.sinceConnect ≤ x.sinceStart) ∧
    ((s.connects = .ofNat (attempts ops) ∧ s.messages = .ofNat (payloads ops)) ∧
      (attempts ops < 2 ^ 32 → s.connects.toNat = attempts ops) ∧
      (payloads ops < 2 ^ 64 → s.messages.toNat = payloads ops)) ∧
    ((∀ first, first <+: ops → (after start first).success = true → s.success = true) ∧
      (s.connected = true → s.success = true)) ∧
    ∀ now, ((s.onMessage now true).1 = true ↔
        ∀ e ∈ ops.rtakeWhile (fun e => !e.2.isReset), e.2 ≠ .pong) ∧
      (s.onMessage now false).1 = false := by
  intro s all
  have htold : Told start ops s := told_after start ops
  have hevents : s.events = all.drop (all.length - 256) := htold.events
  obtain ⟨hlate, hordered⟩ := List.pairwise_cons.mp clock
  have hstart : ∀ e ∈ ops, start ≤ e.1 := fun e he => hlate e.1 (List.mem_map_of_mem he)
  refine ⟨⟨hevents, ?_⟩, ?_, ⟨⟨htold.connects, htold.messages⟩, ?_, ?_⟩, ⟨?_, ?_⟩, ?_⟩
  · rw [hevents, List.length_drop]
    omega
  · intro short
    have hsuffix : s.events <:+ all := hevents ▸ List.drop_suffix _ _
    exact ⟨(sinceStart_pairwise hordered short).sublist hsuffix.sublist,
      fun x hx => sinceConnect_le (List.forall_mem_nil _) hstart short x (hsuffix.subset hx)⟩
  · intro hfew
    rw [htold.connects, UInt32.toNat_ofNat_of_lt' hfew]
  · intro hfew
    rw [htold.messages, UInt64.toNat_ofNat_of_lt' hfew]
  · rintro first ⟨rest, rfl⟩ hsuccess
    rw [(told_after start first).success] at hsuccess
    rw [htold.success, everAnswered_append, hsuccess, Bool.true_or]
  · intro hconnected
    rw [htold.connected] at hconnected
    rw [htold.success, everAnswered_of_answered hconnected]
  · intro now
    refine ⟨?_, rfl⟩
    have hfirst : (s.onMessage now true).1 = !answered ops := by
      rw [← htold.connected, onMessage]
      cases s.connected <;> rfl
    rw [hfirst, answered, everAnswered]
    simp

/-- The clock may go on after all its words: a moment after the last one, an event is told to
come before the one before it, and the attempt to be older than the status. -/
theorem times_wrap_around :
    let ops : List (Nat × StatusOp) :=
      [(18446744073709551615, .attempt), (18446744073709551616, .record "late" {})]
    (0 :: ops.map Prod.fst).Pairwise (· ≤ ·) ∧
      ((after 0 ops).events.map fun x => (x.name, x.sinceStart, x.sinceConnect)) =
        [("connect", 18446744073709551615, 0), ("late", 0, 1)] ∧
      ¬ ((after 0 ops).events.Pairwise fun x y => x.sinceStart ≤ y.sinceStart) ∧
      ¬ ∀ x ∈ (after 0 ops).events, x.sinceConnect ≤ x.sinceStart := by
  decide

/-- Two pongs on one connection, and an attempt after its loss. -/
theorem after_told_by_operations_again :
    let ops : List (Nat × StatusOp) :=
      [(3, .attempt), (5, .pong), (5, .pong), (9, .disconnected), (9, .attempt)]
    (0 :: ops.map Prod.fst).Pairwise (· ≤ ·) ∧
      (after 0 ops).events.Pairwise (fun x y => x.sinceStart ≤ y.sinceStart) ∧
      (after 0 ops).connects.toNat = 2 ∧ (after 0 ops).messages.toNat = 2 ∧
      (after 0 ops).success = true ∧ ((after 0 ops).onMessage 12 true).1 = true := by
  intro ops
  have clock : (0 :: ops.map Prod.fst).Pairwise (· ≤ ·) := by decide
  obtain ⟨-, htimes, ⟨-, hconnects, hmessages⟩, ⟨hsuccess, -⟩, hpong⟩ :=
    after_told_by_operations 0 ops clock
  refine ⟨clock, (htimes (by decide)).1, hconnects (by decide), hmessages (by decide), ?_,
    (hpong 12).1.mpr (by decide)⟩
  exact hsuccess [(3, .attempt), (5, .pong)] ⟨_, rfl⟩ (by decide)

end ConnectionStatus

end TopicClient
