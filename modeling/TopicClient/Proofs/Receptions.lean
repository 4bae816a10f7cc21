import TopicClient.Proofs.Registrations

/-!
# What a handler is told

If every delivery is dispatched before the next operation, a handler is told the state of
a topic that it joins, and then one event for every publish of a known kind, until it
leaves or the topic is closed. Whatever the handlers do when they are called, panics
included, takes no call away and adds none.
-/

namespace TopicClient

/-- Calls of handlers, in order. -/
abbrev Calls := List (HandlerId × TopicEvent)

/-- What an update is told as. One of unknown kind is not told at all. -/
def UpdateKind.event? (topic : String) (ts : Int64) (snapshot : Option Snapshot)
    (body : Option Json) : UpdateKind → Option TopicEvent
  | other _ => none
  | close => some (.closed topic ts)
  | full => some (.state topic ts (some .full) snapshot none)
  | diff => some (.state topic ts (some .diff) snapshot body)
  | mode => some (.notification topic ts mode body)

namespace Delivery
variable {H σ : Type}

/-- The handlers as they are, with a record of their calls beside them. -/
def recording (call : Call H σ) : Call H (Calls × σ) := fun id h event s =>
  let (panic, t) := call id h event s.2
  (panic, s.1 ++ [(id, event)], t)

/-- Reports leave the record of the calls alone. -/
def reporting (report : TopicEvent → Panic → σ → σ) (event : TopicEvent) (panic : Panic)
    (s : Calls × σ) : Calls × σ :=
  (s.1, report event panic s.2)

/-- The calls that a delivery asks for. -/
def calls (d : Delivery H) : Calls := d.handlers.map fun h => (h.1, d.event)

theorem calls_callAll (call : Call H σ) (report : TopicEvent → Panic → σ → σ)
    (event : TopicEvent) (handlers : List (HandlerId × H)) (s : Calls × σ) :
    (callAll (recording call) (reporting report event) event handlers s).2.1 =
      s.1 ++ handlers.map fun h => (h.1, event) := by
  induction handlers generalizing s with
  | nil => exact (List.append_nil s.1).symm
  | cons e handlers ih =>
    obtain ⟨id, h⟩ := e
    rw [callAll]
    cases hcall : call id h event s.2 with
    | mk panic t =>
      have hrecord : recording call id h event s = (panic, s.1 ++ [(id, event)], t) := by
        simp only [recording, hcall]
      rw [hrecord]
      cases panic with
      | none =>
        dsimp only
        rw [ih]
        simp
      | some panic =>
        dsimp only
        rw [ih]
        simp [reporting]

/-- Every handler is called once, in the order of the delivery. -/
theorem calls_dispatch (call : Call H σ) (report : TopicEvent → Panic → σ → σ)
    (d : Delivery H) (s : Calls × σ) :
    (d.dispatch (recording call) (reporting report) s).2.1 = s.1 ++ d.calls :=
  calls_callAll call report d.event d.handlers s

end Delivery

namespace Registry
variable {H σ : Type}

namespace Op

/-- The delivery that an operation returns, if any. -/
def delivery? (r : Registry H) : Op H → Option (Delivery H)
  | .add topic h => (r.add topic h).result.2
  | .remove _ _ => none
  | .publish now m =>
    match (r.publish now m).outcome with
    | .delivered d => some d
    | _ => none

/-- The operation, and then its delivery at once. -/
def perform (call : Call H σ) (report : TopicEvent → Panic → σ → σ) (op : Op H)
    (w : Registry H × Calls × σ) : Registry H × Calls × σ :=
  (op.apply w.1, (op.delivery? w.1).elim w.2 fun d =>
    (d.dispatch (Delivery.recording call) (Delivery.reporting report) w.2).2)

/-- The calls that an operation leads to. -/
def calls (r : Registry H) (op : Op H) : Calls := ((op.delivery? r).map Delivery.calls).getD []

/-- A registration ends when the handler leaves its topic, or with the topic. -/
def Ends (topic : String) (id : HandlerId) : Op H → Prop
  | .add _ _ => False
  | .remove t i => t = topic ∧ i = id
  | .publish _ m => m.topic = topic ∧ m.update.getD .diff = .close

instance (topic : String) (id : HandlerId) : (op : Op H) → Decidable (op.Ends topic id)
  | .add _ _ => inferInstanceAs (Decidable False)
  | .remove t i => inferInstanceAs (Decidable (t = topic ∧ i = id))
  | .publish _ m => inferInstanceAs (Decidable (m.topic = topic ∧ m.update.getD .diff = .close))

/-- The cursor after a publish. A topic that has been closed by it had its cursor moved
before it went. -/
def cursorAfter (now : Int) (m : Message) (r : Registry H) : Int64 :=
  match ((publish now m).apply r).find? m.topic with
  | some s => s.ts
  | none => m.ts.getD (((r.find? m.topic).map Subscription.ts).getD 0)

/-- What the handlers of a topic are told of an operation, leaving out replays. -/
def told (topic : String) (r : Registry H) : Op H → List TopicEvent
  | .publish now m =>
    if m.topic = topic then
      ((m.update.getD .diff).event? topic (cursorAfter now m r)
        (((publish now m).apply r).snapshot? topic) m.body).toList
    else []
  | _ => []

end Op

/-- A run in which every delivery is dispatched before the next operation. -/
def live (call : Call H σ) (report : TopicEvent → Panic → σ → σ) (track : Bool)
    (ops : List (Op H)) (s : σ) : Registry H × Calls × σ :=
  ops.foldl (fun w op => op.perform call report w) ({ track := track }, [], s)

/-- What one handler has been told. -/
def received (id : HandlerId) (calls : Calls) : List TopicEvent :=
  (calls.filter (·.1 = id)).map Prod.snd

/-- What a handler that joins a topic is told at once: the state of that moment, if the
topic was tracked already. -/
def replayed (topic : String) (r : Registry H) : List TopicEvent :=
  ((r.find? topic).map fun s => TopicEvent.state topic s.ts none s.snapshot none).toList

/-- What a registration is told from now on, up to the operation that ends it. -/
def story (topic : String) (id : HandlerId) (r : Registry H) : List (Op H) → List TopicEvent
  | [] => []
  | op :: ops =>
    op.told topic r ++ if op.Ends topic id then [] else story topic id (op.apply r) ops

/-! ## The calls of a run -/

theorem live_snoc (call : Call H σ) (report : TopicEvent → Panic → σ → σ) (track : Bool)
    (ops : List (Op H)) (op : Op H) (s : σ) :
    live call report track (ops ++ [op]) s =
      op.perform call report (live call report track ops s) := by
  simp [live]

theorem live_registry (call : Call H σ) (report : TopicEvent → Panic → σ → σ) (track : Bool)
    (ops : List (Op H)) (s : σ) : (live call report track ops s).1 = run track ops := by
  induction ops using List.reverseRecOn with
  | nil => rfl
  | append_singleton ops op ih =>
    rw [live_snoc, run_snoc, ← ih]
    rfl

theorem calls_perform (call : Call H σ) (report : TopicEvent → Panic → σ → σ) (op : Op H)
    (w : Registry H × Calls × σ) : (op.perform call report w).2.1 = w.2.1 ++ op.calls w.1 := by
  rw [Op.perform, Op.calls]
  cases op.delivery? w.1 with
  | none => exact (List.append_nil _).symm
  | some d => exact Delivery.calls_dispatch call report d w.2

theorem calls_live_snoc (call : Call H σ) (report : TopicEvent → Panic → σ → σ) (track : Bool)
    (ops : List (Op H)) (op : Op H) (s : σ) :
    (live call report track (ops ++ [op]) s).2.1 =
      (live call report track ops s).2.1 ++ op.calls (run track ops) := by
  rw [live_snoc, calls_perform, live_registry]

theorem received_append (id : HandlerId) (calls more : Calls) :
    received id (calls ++ more) = received id calls ++ received id more := by
  simp [received]

theorem received_of_not_mem {id : HandlerId} {calls : Calls} (h : id ∉ calls.map Prod.fst) :
    received id calls = [] := by
  have hnone : calls.filter (·.1 = id) = [] := by
    refine List.filter_eq_nil_iff.mpr ?_
    intro c hc heq
    exact h (List.mem_map.mpr ⟨c, hc, by simpa using heq⟩)
  rw [received, hnone]
  rfl

/-- A delivery tells each of its handlers once. -/
theorem received_calls {d : Delivery H} {id : HandlerId} (hid : id ∈ Assoc.keys d.handlers)
    (hnodup : (Assoc.keys d.handlers).Nodup) : received id d.calls = [d.event] := by
  obtain ⟨handlers, event⟩ := d
  change received id (handlers.map fun h => (h.1, event)) = [event]
  induction handlers with
  | nil => cases hid
  | cons e handlers ih =>
    rw [Assoc.keys_cons, List.nodup_cons] at hnodup
    rw [List.map_cons, ← List.singleton_append, received_append]
    by_cases he : e.1 = id
    · have hrest : id ∉ (handlers.map fun h => (h.1, event)).map Prod.fst := by
        rw [List.map_map, ← he]
        exact hnodup.1
      rw [received_of_not_mem hrest]
      simp [received, he]
    · have hrest : id ∈ Assoc.keys handlers := by
        rw [Assoc.keys_cons, List.mem_cons] at hid
        exact hid.resolve_left (Ne.symm he)
      rw [ih hrest hnodup.2]
      simp [received, he]

/-! ## One operation -/

theorem calls_add_tracked {r : Registry H} {topic : String} {s : Subscription H}
    (h : r.find? topic = some s) (handler : H) :
    (Op.add topic handler).calls r =
      [(r.lastHandler + 1, .state topic s.ts none s.snapshot none)] := by
  simp only [Op.calls, Op.delivery?, add, h]
  rfl

theorem calls_add_new {r : Registry H} {topic : String} (h : r.find? topic = none)
    (handler : H) : (Op.add topic handler).calls r = [] := by
  simp only [Op.calls, Op.delivery?, add, h]
  rfl

/-- Of a handler that joins, nobody else is told. -/
theorem received_add {r : Registry H} {topic : String} {handler : H} {id : HandlerId}
    (h : id ≠ r.lastHandler + 1) : received id ((Op.add topic handler).calls r) = [] := by
  refine received_of_not_mem ?_
  cases hfound : r.find? topic with
  | none =>
    rw [calls_add_new hfound]
    exact List.not_mem_nil
  | some s =>
    rw [calls_add_tracked hfound]
    simpa using h

theorem received_joining (topic : String) (handler : H) (r : Registry H) :
    received (r.lastHandler + 1) ((Op.add topic handler).calls r) = replayed topic r := by
  rw [replayed]
  cases hfound : r.find? topic with
  | none =>
    rw [calls_add_new hfound]
    rfl
  | some s =>
    rw [calls_add_tracked hfound]
    simp [received]

/-- A publish to a tracked topic goes to all its handlers as one event, or to nobody. -/
theorem delivery?_publish {r : Registry H} (hr : Assoc.Distinct r.topics) (now : Int)
    (m : Message) {s : Subscription H} (h : r.find? m.topic = some s) :
    (Op.publish now m).delivery? r =
      ((m.update.getD .diff).event? m.topic (Op.cursorAfter now m r)
        (((Op.publish now m).apply r).snapshot? m.topic) m.body).map fun event =>
          ⟨r.handlersOf m.topic, event⟩ := by
  have hself : ((Op.publish now m).apply r).find? m.topic = s.published? now r.track m := by
    refine (find?_apply_self (.publish now m) hr).trans ?_
    rw [Op.after?, h, Option.bind_some]
  rw [snapshot?, Op.cursorAfter, hself, h, handlersOf_of_find? h, Op.delivery?,
    publish, h, Subscription.published?]
  cases m.update.getD .diff <;> rfl

theorem delivery?_publish_untracked {r : Registry H} (now : Int) {m : Message}
    (h : r.find? m.topic = none) : (Op.publish now m).delivery? r = none := by
  rw [Op.delivery?, publish, h]

/-- An operation calls only the handler that it registers, or handlers of its topic. -/
theorem mem_calls {r : Registry H} (hr : Assoc.Distinct r.topics) {op : Op H}
    {c : HandlerId × TopicEvent} (h : c ∈ op.calls r) :
    (c.1 = r.lastHandler + 1 ∧ (op.apply r).lastHandler = r.lastHandler + 1) ∨
      c.1 ∈ r.idsOf op.topic := by
  cases op with
  | add topic handler =>
    refine .inl ⟨?_, lastHandler_add topic handler r⟩
    cases hfound : r.find? topic with
    | none =>
      rw [calls_add_new hfound] at h
      cases h
    | some s =>
      rw [calls_add_tracked hfound] at h
      rw [List.mem_singleton.mp h]
  | remove topic id => cases h
  | publish now m =>
    right
    rw [Op.calls] at h
    cases hfound : r.find? m.topic with
    | none =>
      rw [delivery?_publish_untracked now hfound] at h
      cases h
    | some s =>
      rw [delivery?_publish hr now m hfound, Option.map_map] at h
      generalize (m.update.getD .diff).event? m.topic _ _ m.body = event at h
      cases event with
      | none => cases h
      | some event =>
        obtain ⟨e, he, rfl⟩ := List.mem_map.mp h
        exact List.mem_map.mpr ⟨e, he, rfl⟩

theorem received_elsewhere {r : Registry H} (hr : Assoc.Distinct r.topics) {id : HandlerId}
    (hle : id ≤ r.lastHandler) {op : Op H} (hid : id ∉ r.idsOf op.topic) :
    received id (op.calls r) = [] := by
  refine received_of_not_mem ?_
  intro hmem
  obtain ⟨c, hc, rfl⟩ := List.mem_map.mp hmem
  rcases mem_calls hr hc with ⟨hnew, -⟩ | hother
  · rw [hnew] at hle
    exact Nat.not_succ_le_self _ hle
  · exact hid hother

theorem ascending_delivery {r : Registry H} (h : r.Orderly) {op : Op H} {d : Delivery H}
    (hd : op.delivery? r = some d) : (Assoc.keys d.handlers).Pairwise (· < ·) := by
  cases op with
  | add topic handler =>
    rw [Op.delivery?, add] at hd
    cases hfound : r.find? topic with
    | none =>
      rw [hfound] at hd
      cases hd
    | some s =>
      rw [hfound] at hd
      obtain rfl := Option.some.inj hd
      exact List.pairwise_singleton _ _
  | remove topic id => cases hd
  | publish now m =>
    cases hfound : r.find? m.topic with
    | none =>
      rw [delivery?_publish_untracked now hfound] at hd
      cases hd
    | some s =>
      rw [delivery?_publish h.distinct now m hfound] at hd
      obtain ⟨event, -, rfl⟩ := Option.map_eq_some_iff.mp hd
      exact h.ascending m.topic

/-- Who is registered for a topic is told what the topic is told. -/
theorem received_told {r : Registry H} (h : r.Orderly) {topic : String} {id : HandlerId}
    (hid : id ∈ r.idsOf topic) (op : Op H) : received id (op.calls r) = op.told topic r := by
  have hold : id ≤ r.lastHandler := h.issued topic id hid
  cases op with
  | add other handler =>
    refine received_add ?_
    rintro rfl
    exact Nat.not_succ_le_self _ hold
  | remove other i => rfl
  | publish now m =>
    by_cases htopic : m.topic = topic
    · subst htopic
      cases hfound : r.find? m.topic with
      | none =>
        rw [idsOf, handlersOf, hfound] at hid
        cases hid
      | some s =>
        rw [Op.told, if_pos rfl, Op.calls, delivery?_publish h.distinct now m hfound,
          Option.map_map]
        cases (m.update.getD .diff).event? m.topic (Op.cursorAfter now m r)
            (((Op.publish now m).apply r).snapshot? m.topic) m.body with
        | none => rfl
        | some event =>
          exact received_calls hid ((h.ascending m.topic).imp fun hlt => ne_of_lt hlt)
    · rw [Op.told, if_neg htopic]
      refine received_elsewhere h.distinct hold ?_
      exact fun hother => htopic (h.apart _ _ _ hother hid)

/-! ## The end of a registration -/

/-- The id has been handed out and stands under no topic any more. -/
def Gone (id : HandlerId) (r : Registry H) : Prop :=
  id ≤ r.lastHandler ∧ ∀ topic, id ∉ r.idsOf topic

/-- No operation registers an id again. -/
theorem mem_idsOf_apply {r : Registry H} (hr : Assoc.Distinct r.topics) {op : Op H}
    {id : HandlerId} (hle : id ≤ r.lastHandler) {topic : String}
    (h : id ∈ (op.apply r).idsOf topic) : id ∈ r.idsOf topic := by
  by_cases htopic : topic = op.topic
  · subst htopic
    cases op with
    | add topic handler =>
      rcases mem_idsOf_add hr h with hold | ⟨-, rfl⟩
      · exact hold
      · exact absurd hle (Nat.not_succ_le_self _)
    | remove topic i =>
      rw [Op.topic, idsOf_remove hr] at h
      exact List.mem_of_mem_filter h
    | publish now m =>
      rw [Op.topic, idsOf_publish hr] at h
      split at h
      · cases h
      · exact h
  · rwa [idsOf_apply_of_ne htopic] at h

theorem Gone.apply {r : Registry H} (hr : Assoc.Distinct r.topics) {id : HandlerId}
    (h : r.Gone id) (op : Op H) : (op.apply r).Gone id :=
  ⟨le_trans h.1 (lastHandler_le op r), fun topic hid => h.2 topic (mem_idsOf_apply hr h.1 hid)⟩

theorem gone_of_ends {r : Registry H} (h : r.Orderly) {topic : String} {id : HandlerId}
    (hid : id ∈ r.idsOf topic) {op : Op H} (hends : op.Ends topic id) :
    (op.apply r).Gone id := by
  have hle := h.issued topic id hid
  refine ⟨le_trans hle (lastHandler_le op r), ?_⟩
  intro other hother
  obtain rfl := h.apart id other topic (mem_idsOf_apply h.distinct hle hother) hid
  cases op with
  | add _ _ => exact hends
  | remove t i =>
    obtain ⟨rfl, rfl⟩ := hends
    rw [idsOf_remove h.distinct] at hother
    simpa using List.of_mem_filter hother
  | publish now m =>
    obtain ⟨rfl, hclose⟩ := hends
    rw [idsOf_publish h.distinct, if_pos hclose] at hother
    cases hother

theorem mem_idsOf_of_not_ends {r : Registry H} (hr : Assoc.Distinct r.topics) {topic : String}
    {id : HandlerId} (hid : id ∈ r.idsOf topic) {op : Op H} (hends : ¬ op.Ends topic id) :
    id ∈ (op.apply r).idsOf topic := by
  by_cases htopic : topic = op.topic
  · subst htopic
    cases op with
    | add topic handler =>
      rw [Op.topic, idsOf_add hr, if_pos rfl]
      exact List.mem_append_left _ hid
    | remove topic i =>
      rw [Op.topic, idsOf_remove hr]
      have hne : id ≠ i := fun heq => hends ⟨rfl, heq.symm⟩
      exact List.mem_filter.mpr ⟨hid, by simpa using hne⟩
    | publish now m =>
      have hopen : m.update.getD .diff ≠ .close := fun hclose => hends ⟨rfl, hclose⟩
      rw [Op.topic, idsOf_publish hr, if_neg hopen]
      exact hid
  · rwa [idsOf_apply_of_ne htopic]

/-! ## Whole runs -/

/-- The calls that operations lead to, one after the other. -/
def callsAlong (r : Registry H) : List (Op H) → Calls
  | [] => []
  | op :: ops => op.calls r ++ callsAlong (op.apply r) ops

theorem calls_live_append (call : Call H σ) (report : TopicEvent → Panic → σ → σ) (track : Bool)
    (ops more : List (Op H)) (s : σ) :
    (live call report track (ops ++ more) s).2.1 =
      (live call report track ops s).2.1 ++ callsAlong (run track ops) more := by
  induction more generalizing ops with
  | nil => rw [callsAlong, List.append_nil, List.append_nil]
  | cons op more ih =>
    rw [List.append_cons, ih, calls_live_snoc, run_snoc, callsAlong, List.append_assoc]

theorem received_gone {r : Registry H} (hr : r.Orderly) {id : HandlerId} (h : r.Gone id)
    (ops : List (Op H)) : received id (callsAlong r ops) = [] := by
  induction ops generalizing r with
  | nil => rfl
  | cons op ops ih =>
    rw [callsAlong, received_append, received_elsewhere hr.distinct h.1 (h.2 op.topic),
      ih (hr.apply op) (h.apply hr.distinct op), List.append_nil]

theorem received_along {r : Registry H} (hr : r.Orderly) {topic : String} {id : HandlerId}
    (hid : id ∈ r.idsOf topic) (ops : List (Op H)) :
    received id (callsAlong r ops) = story topic id r ops := by
  induction ops generalizing r with
  | nil => rfl
  | cons op ops ih =>
    rw [callsAlong, received_append, received_told hr hid, story]
    congr 1
    by_cases hends : op.Ends topic id
    · rw [if_pos hends]
      exact received_gone (hr.apply op) (gone_of_ends hr hid hends) ops
    · rw [if_neg hends]
      exact ih (hr.apply op) (mem_idsOf_of_not_ends hr.distinct hid hends)

/-- Nobody has been called whose id has not been handed out. -/
theorem calls_live_issued (call : Call H σ) (report : TopicEvent → Panic → σ → σ) (track : Bool)
    (ops : List (Op H)) (s : σ) :
    ∀ c ∈ (live call report track ops s).2.1, c.1 ≤ (run track ops).lastHandler := by
  induction ops using List.reverseRecOn with
  | nil => nofun
  | append_singleton ops op ih =>
    have horderly := orderly_run track ops
    intro c hc
    rw [run_snoc]
    rw [calls_live_snoc, List.mem_append] at hc
    rcases hc with hold | hnew
    · exact le_trans (ih c hold) (lastHandler_le op _)
    · rcases mem_calls horderly.distinct hnew with ⟨hid, hlast⟩ | hid
      · rw [hid, hlast]
      · exact le_trans (horderly.issued _ _ hid) (lastHandler_le op _)

/-- A handler that is about to be registered has not been told anything. -/
theorem received_before (call : Call H σ) (report : TopicEvent → Panic → σ → σ) (track : Bool)
    (ops : List (Op H)) (s : σ) :
    received ((run track ops).lastHandler + 1) (live call report track ops s).2.1 = [] := by
  refine received_of_not_mem ?_
  intro hmem
  obtain ⟨c, hc, hid⟩ := List.mem_map.mp hmem
  have hle := calls_live_issued call report track ops s c hc
  rw [hid] at hle
  exact Nat.not_succ_le_self _ hle

/-! ## The closing -/

/-- Nothing comes after a closing. -/
def ClosedLast (events : List TopicEvent) : Prop :=
  ∀ told topic ts later, events = told ++ .closed topic ts :: later → later = []

theorem closedLast_nil : ClosedLast [] := by
  intro told topic ts later h
  simp at h

theorem closedLast_singleton (event : TopicEvent) : ClosedLast [event] := by
  intro told topic ts later h
  cases told with
  | nil => exact (List.cons.inj h).2.symm
  | cons e told => simp at h

theorem ClosedLast.cons {event : TopicEvent} {events : List TopicEvent}
    (h : ClosedLast events) (hopen : ∀ topic ts, event ≠ .closed topic ts) :
    ClosedLast (event :: events) := by
  intro told topic ts later hsplit
  cases told with
  | nil => exact absurd (List.cons.inj hsplit).1 (hopen topic ts)
  | cons e told => exact h told topic ts later (List.cons.inj hsplit).2

/-- An operation tells a topic nothing, or one event, which is a closing only if the
operation ends all its registrations. -/
theorem told_cases (topic : String) (r : Registry H) (op : Op H) :
    op.told topic r = [] ∨ ∃ event, op.told topic r = [event] ∧
      ((∀ t ts, event ≠ .closed t ts) ∨ ∀ id, op.Ends topic id) := by
  cases op with
  | add _ _ => exact .inl rfl
  | remove _ _ => exact .inl rfl
  | publish now m =>
    rw [Op.told]
    by_cases htopic : m.topic = topic
    · rw [if_pos htopic]
      cases hmode : m.update.getD .diff with
      | other code => exact .inl rfl
      | close => exact .inr ⟨_, rfl, .inr fun id => ⟨htopic, hmode⟩⟩
      | _ => exact .inr ⟨_, rfl, .inl nofun⟩
    · rw [if_neg htopic]
      exact .inl rfl

theorem closedLast_story (topic : String) (id : HandlerId) (r : Registry H)
    (ops : List (Op H)) : ClosedLast (story topic id r ops) := by
  induction ops generalizing r with
  | nil => exact closedLast_nil
  | cons op ops ih =>
    rw [story]
    have hrest : ClosedLast (if op.Ends topic id then [] else story topic id (op.apply r) ops) := by
      split
      · exact closedLast_nil
      · exact ih _
    rcases told_cases topic r op with htold | ⟨event, htold, hopen | hends⟩
    · rw [htold]
      exact hrest
    · rw [htold]
      exact hrest.cons hopen
    · rw [htold, if_pos (hends id)]
      exact closedLast_singleton event

theorem id_add (topic : String) (handler : H) (r : Registry H) :
    (r.add topic handler).result.1 = r.lastHandler + 1 := by
  rw [add]
  cases r.find? topic <;> rfl

/-- In a run whose deliveries are dispatched at once, a registration is told the state of
its topic at that moment if the topic was tracked already, and then every update of known
kind that is published to the topic, up to the one that closes it or to its leaving; a
closing is the last thing that it hears. Every delivery calls its handlers in the order of
their registration, each once. -/
theorem received_eq_story (call : Call H σ) (report : TopicEvent → Panic → σ → σ) (track : Bool)
    (before : List (Op H)) (topic : String) (handler : H) (after : List (Op H)) (s : σ) :
    let ops := before ++ .add topic handler :: after
    let id := ((run track before).add topic handler).result.1
    let heard := received id (live call report track ops s).2.1
    heard = replayed topic (run track before) ++
        story topic id (run track (before ++ [.add topic handler])) after ∧
      (∀ told t ts later, heard = told ++ .closed t ts :: later → later = []) ∧
      ∀ first op rest d, ops = first ++ op :: rest → op.delivery? (run track first) = some d →
        (live call report track (first ++ [op]) s).2.1 =
            (live call report track first s).2.1 ++ d.handlers.map (fun h => (h.1, d.event)) ∧
          (d.handlers.map Prod.fst).Pairwise (· < ·) := by
  intro ops id heard
  have hid : id = (run track before).lastHandler + 1 := id_add topic handler _
  have hjoined : id ∈ (run track (before ++ [.add topic handler])).idsOf topic := by
    rw [run_snoc, idsOf_add (run_keeps track before).1, if_pos rfl, hid]
    exact List.mem_append_right _ (List.mem_singleton_self _)
  have hstory : heard = replayed topic (run track before) ++
      story topic id (run track (before ++ [.add topic handler])) after := by
    change received id (live call report track (before ++ .add topic handler :: after) s).2.1 = _
    rw [List.append_cons, calls_live_append, calls_live_snoc, received_append, received_append,
      received_along (orderly_run track _) hjoined, hid, received_before, received_joining,
      List.nil_append]
  refine ⟨hstory, ?_, ?_⟩
  · have hlast := closedLast_story topic id (run track (before ++ [.add topic handler])) after
    rw [hstory, replayed]
    cases (run track before).find? topic with
    | none => exact hlast
    | some s => exact hlast.cons nofun
  · intro first op rest d _ hd
    refine ⟨?_, ascending_delivery (orderly_run track first) hd⟩
    rw [calls_live_snoc, Op.calls, hd]
    rfl

/-- A handler joins a topic that is tracked, hears of an update and of the closing, and of
nothing that comes later. -/
example :
    let ops : List (Op Unit) :=
      [.add "t" (), .publish 1 (.publish "t" 3 .event none), .add "t" (),
       .publish 2 (.publish "t" 4 (.other 7) none), .publish 3 (.publish "t" 5 .append none),
       .publish 4 (.publish "t" 6 .close none), .add "t" (),
       .publish 5 (.publish "t" 7 .event none)]
    received 2 (live (fun _ _ _ s => (none, s)) (fun _ _ s => s) true ops ()).2.1 =
      [.state "t" 3 none none none, .notification "t" 5 .append none, .closed "t" 6] := rfl

end Registry

end TopicClient
