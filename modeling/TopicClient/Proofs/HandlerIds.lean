import TopicClient.Proofs.Observations
import TopicClient.Proofs.Receptions

/-!
# The ids of handlers

A handler is known by its id alone, so an id must not be mistaken for another. The ids that
are handed out count the registrations. A registration stands under its topic from the
moment it is made to the one that ends it, and nowhere else; a topic without registrations is
not tracked.
-/

namespace TopicClient

variable {H : Type}

def Subscription.without (id : HandlerId) (s : Subscription H) : Subscription H :=
  { s with handlers := s.handlers.filter (·.1 ≠ id) }

namespace Registry

/-- The registry without one registration. A topic that has no other goes with it. -/
def without (topic : String) (id : HandlerId) (r : Registry H) : Registry H :=
  let topics := Assoc.modify topic (Subscription.without id) r.topics
  { r with topics := topics.filter fun e => !e.2.handlers.isEmpty }

/-- The id that an operation hands out. -/
def Op.issued? (r : Registry H) : Op H → Option HandlerId
  | .add topic h => some (r.add topic h).result.1
  | _ => none

def Op.isAdd : Op H → Bool
  | .add _ _ => true
  | _ => false

/-- How many handlers have come. -/
def adds (ops : List (Op H)) : Nat := ops.countP Op.isAdd

/-- The ids handed out in the course of the operations. -/
def issued (track : Bool) : List (Op H) → List HandlerId :=
  along (fun r op => op.issued? r) { track := track }

/-! ## Ids count the registrations -/

theorem adds_snoc (ops : List (Op H)) (op : Op H) :
    adds (ops ++ [op]) = adds ops + if op.isAdd then 1 else 0 := by
  simp [adds, List.countP_singleton]

theorem issued_snoc (track : Bool) (ops : List (Op H)) (op : Op H) :
    issued track (ops ++ [op]) = issued track ops ++ (op.issued? (run track ops)).toList := by
  rw [issued, along_append, along, along, List.append_nil, run]

theorem lastHandler_run (track : Bool) (ops : List (Op H)) :
    (run track ops).lastHandler = adds ops := by
  induction ops using List.reverseRecOn with
  | nil => rfl
  | append_singleton ops op ih =>
    rw [run_snoc, adds_snoc, ← ih]
    cases op with
    | add topic h => exact lastHandler_add topic h _
    | remove topic id => exact lastHandler_remove topic id _
    | publish now m => exact lastHandler_publish now m _

theorem issued_eq_range (track : Bool) (ops : List (Op H)) :
    issued track ops = List.range' 1 (adds ops) := by
  induction ops using List.reverseRecOn with
  | nil => rfl
  | append_singleton ops op ih =>
    rw [issued_snoc, adds_snoc, ih]
    cases op with
    | add topic h =>
      have hid : ((run track ops).add topic h).result.1 = 1 + adds ops := by
        rw [id_add, lastHandler_run, Nat.add_comm]
      simp [Op.issued?, Op.isAdd, hid, List.range'_concat]
    | remove topic id => simp [Op.issued?, Op.isAdd]
    | publish now m => simp [Op.issued?, Op.isAdd]

/-! ## No topic without a handler -/

/-- Every topic that is tracked has somebody to tell. -/
def Attended (r : Registry H) : Prop := ∀ topic ∈ r.names, r.handlersOf topic ≠ []

theorem Attended.handlers {r : Registry H} (h : r.Attended) {topic : String}
    {s : Subscription H} (hfound : r.find? topic = some s) : s.handlers ≠ [] := by
  rw [← handlersOf_of_find? hfound]
  exact h topic (mem_names hfound)

theorem handlers_published? {now : Int} {track : Bool} {m : Message} {s s' : Subscription H}
    (h : s.published? now track m = some s') : s'.handlers = s.handlers := by
  rw [Subscription.published?] at h
  cases hmode : m.update.getD .diff <;> simp only [hmode, Option.some.injEq] at h
  case close => cases h
  all_goals
    subst h
    rfl

theorem handlers_after? {r : Registry H} (hr : r.Attended) {op : Op H} {s : Subscription H}
    (h : op.after? r = some s) : s.handlers ≠ [] := by
  cases op with
  | add topic handler =>
    obtain rfl := Option.some.inj h
    cases r.find? topic <;> simp
  | remove topic id =>
    obtain ⟨s₀, hfound, hleft⟩ := Option.bind_eq_some_iff.mp h
    rw [Subscription.left?] at hleft
    by_cases hany : s₀.handlers.any (·.1 = id) = true
    · by_cases hempty : (s₀.handlers.filter (·.1 ≠ id)).isEmpty = true
      · simp only [if_pos hany, if_pos hempty] at hleft
        cases hleft
      · simp only [if_pos hany, if_neg hempty, Option.some.injEq] at hleft
        subst hleft
        exact fun heq => hempty (List.isEmpty_iff.mpr heq)
    · simp only [if_neg hany, Option.some.injEq] at hleft
      subst hleft
      exact hr.handlers hfound
  | publish now m =>
    obtain ⟨s₀, hfound, hpublished⟩ := Option.bind_eq_some_iff.mp h
    rw [handlers_published? hpublished]
    exact hr.handlers hfound

theorem Attended.apply {r : Registry H} (h : r.Attended) (hr : Assoc.Distinct r.topics)
    (op : Op H) : (op.apply r).Attended := by
  intro topic hmem
  by_cases htopic : topic = op.topic
  · subst htopic
    rw [mem_names_apply hr] at hmem
    obtain ⟨s, hs⟩ := Option.isSome_iff_exists.mp hmem
    rw [handlersOf_apply_self op hr, hs]
    exact handlers_after? h hs
  · rw [mem_names_iff, find?_apply_of_ne htopic, ← mem_names_iff] at hmem
    rw [handlersOf_apply_of_ne htopic]
    exact h topic hmem

theorem attended_run (track : Bool) (ops : List (Op H)) : (run track ops).Attended := by
  induction ops using List.reverseRecOn with
  | nil => exact fun topic hmem => absurd hmem List.not_mem_nil
  | append_singleton ops op ih =>
    rw [run_snoc]
    exact ih.apply (run_keeps track ops).1 op

/-! ## Who is registered -/

/-- An id that stands under a topic was there before, or has just been handed out for it. -/
theorem mem_idsOf_cases {r : Registry H} (hr : r.Orderly) {op : Op H} {topic : String}
    {id : HandlerId} (h : id ∈ (op.apply r).idsOf topic) :
    id ∈ r.idsOf topic ∨ ∃ handler, op = .add topic handler ∧ id = r.lastHandler + 1 := by
  by_cases hle : id ≤ r.lastHandler
  · exact .inl (mem_idsOf_apply hr.distinct hle h)
  · have hissued := (hr.apply op).issued topic id h
    cases op with
    | add other handler =>
      rcases mem_idsOf_add hr.distinct h with hold | ⟨rfl, hid⟩
      · exact absurd (hr.issued topic id hold) hle
      · exact .inr ⟨handler, rfl, hid⟩
    | remove other i =>
      rw [lastHandler_remove] at hissued
      exact absurd hissued hle
    | publish now m =>
      rw [lastHandler_publish] at hissued
      exact absurd hissued hle

/-- What does not end a registration leaves it. -/
theorem mem_idsOf_run {track : Bool} {before : List (Op H)} {topic : String} {id : HandlerId}
    (h : id ∈ (run track before).idsOf topic) {after : List (Op H)}
    (hafter : ∀ op ∈ after, ¬ op.Ends topic id) :
    id ∈ (run track (before ++ after)).idsOf topic := by
  induction after using List.reverseRecOn with
  | nil => rwa [List.append_nil]
  | append_singleton after op ih =>
    rw [← List.append_assoc, run_snoc]
    have hmem := ih fun o ho => hafter o (List.mem_append_left [op] ho)
    exact mem_idsOf_of_not_ends (run_keeps track _).1 hmem (hafter op (by simp))

/-- A registration stands from the operation that makes it to the first that ends it. -/
theorem mem_idsOf_run_iff {track : Bool} {ops : List (Op H)} {topic : String} {id : HandlerId} :
    id ∈ (run track ops).idsOf topic ↔
      ∃ before handler after, ops = before ++ .add topic handler :: after ∧
        id = adds before + 1 ∧ ∀ op ∈ after, ¬ op.Ends topic id := by
  constructor
  · intro h
    induction ops using List.reverseRecOn with
    | nil => cases h
    | append_singleton ops op ih =>
      have horderly := orderly_run track ops
      rw [run_snoc] at h
      rcases mem_idsOf_cases horderly h with hold | ⟨handler, rfl, hid⟩
      · obtain ⟨before, handler, after, rfl, hid, hafter⟩ := ih hold
        refine ⟨before, handler, after ++ [op], by simp, hid, ?_⟩
        intro o ho
        rcases List.mem_append.mp ho with hmem | hlast
        · exact hafter o hmem
        · rw [List.mem_singleton.mp hlast]
          intro hends
          exact (gone_of_ends horderly hold hends).2 topic h
      · rw [lastHandler_run] at hid
        exact ⟨ops, handler, [], rfl, hid, fun o ho => absurd ho List.not_mem_nil⟩
  · rintro ⟨before, handler, after, rfl, rfl, hafter⟩
    have hjoined : adds before + 1 ∈ (run track (before ++ [.add topic handler])).idsOf topic := by
      rw [run_snoc, idsOf_add (run_keeps track before).1, if_pos rfl, lastHandler_run]
      exact List.mem_append_right _ (List.mem_singleton_self _)
    rw [List.append_cons]
    exact mem_idsOf_run hjoined hafter

theorem Orderly.nodup_ids {r : Registry H} (h : r.Orderly) :
    (r.names.flatMap fun topic => r.idsOf topic).Nodup := by
  rw [List.nodup_flatMap]
  constructor
  · intro topic _
    exact (h.ascending topic).imp fun hlt => Nat.ne_of_lt hlt
  · refine List.Pairwise.imp ?_ h.distinct
    intro topic other hne id hid hother
    exact hne (h.apart id topic other hid hother)

/-! ## Leaving -/

theorem remove_result_iff {r : Registry H} {topic : String} {id : HandlerId} :
    (r.remove topic id).result = true ↔ id ∈ r.idsOf topic := by
  rw [remove, idsOf, handlersOf]
  cases r.find? topic with
  | none => simp
  | some s =>
    have hany : s.handlers.any (·.1 = id) = true ↔ id ∈ Assoc.keys s.handlers := by
      simp [Assoc.keys, List.any_eq_true]
    simp only [Option.map_some, Option.getD_some, ← hany]
    split_ifs with hmem hleft <;> simp [hmem]

theorem remove_of_result {r : Registry H} {topic : String} {id : HandlerId}
    (h : (r.remove topic id).result = false) :
    (r.remove topic id).registry = r ∧ (r.remove topic id).announcement = none := by
  rw [remove] at h ⊢
  cases hfound : r.find? topic with
  | none => exact ⟨rfl, rfl⟩
  | some s =>
    rw [hfound] at h
    by_cases hany : s.handlers.any (·.1 = id) = true
    · by_cases hleft : (s.handlers.filter (·.1 ≠ id)).isEmpty = true
      · simp only [if_pos hany, if_pos hleft] at h
        cases h
      · simp only [if_pos hany, if_neg hleft] at h
        cases h
    · simp only [if_neg hany]
      exact ⟨trivial, trivial⟩

theorem without_of_not_any {s : Subscription H} {id : HandlerId}
    (h : ¬ s.handlers.any (·.1 = id) = true) : s.without id = s := by
  rw [Subscription.without, filter_of_not_any h]

theorem left?_eq_without {s : Subscription H} (h : s.handlers ≠ []) (id : HandlerId) :
    s.left? id = if !(s.without id).handlers.isEmpty then some (s.without id) else none := by
  have hleft : s.left? id =
      if s.handlers.any (·.1 = id) then
        if (s.without id).handlers.isEmpty then none else some (s.without id)
      else some s := rfl
  by_cases hany : s.handlers.any (·.1 = id) = true
  · rw [hleft, if_pos hany]
    cases (s.without id).handlers.isEmpty <;> rfl
  · rw [hleft, if_neg hany, without_of_not_any hany]
    simp [h]

theorem remove_eq_without {r : Registry H} (hr : Assoc.Distinct r.topics) (h : r.Attended)
    (topic : String) (id : HandlerId) : (r.remove topic id).registry = r.without topic id := by
  have hall : ∀ e ∈ r.topics, (!e.2.handlers.isEmpty) = true := by
    intro e he
    have hfound : r.find? e.1 = some e.2 := Assoc.find?_of_mem hr he
    simpa using h.handlers hfound
  rw [registry_remove, without, settle]
  cases hfound : r.find? topic with
  | none =>
    have habsent : topic ∉ Assoc.keys r.topics := Assoc.find?_eq_none_iff.mp hfound
    simp only [Option.bind_none, Assoc.settle, Assoc.erase_of_not_mem habsent,
      Assoc.modify_of_not_mem _ habsent, List.filter_eq_self.mpr hall]
  | some s =>
    have hgone := Assoc.filter_modify (p := fun s : Subscription H => !s.handlers.isEmpty)
      (Subscription.without id) hfound hr hall
    rw [hgone, Option.bind_some, left?_eq_without (h.handlers hfound)]

/-- No id can be mistaken for another. However handlers come and go and whatever is published,
a topic is tracked once and has a handler; ids ascend within a topic, stand once in the whole
registry, and are the numbers of the registrations, so that none is handed out twice. An id
stands under just the topic that it was handed out for, until it leaves or the topic is closed.
Leaving is granted to an id that stands under the very topic, and takes nothing else away;
otherwise nothing changes and nobody is told. -/
theorem ids_unambiguous (track : Bool) (ops : List (Op H)) :
    let r := run track ops
    r.names.Nodup ∧ (∀ topic ∈ r.names, r.handlersOf topic ≠ []) ∧
      (∀ topic, (r.idsOf topic).Pairwise (· < ·)) ∧
      (r.names.flatMap fun topic => r.idsOf topic).Nodup ∧
      (∀ topic, ∀ id ∈ r.idsOf topic, id ≤ adds ops) ∧
      issued track ops = List.range' 1 (adds ops) ∧
      (∀ topic id, id ∈ r.idsOf topic ↔
        ∃ before handler after, ops = before ++ .add topic handler :: after ∧
          id = adds before + 1 ∧ ∀ op ∈ after, ¬ op.Ends topic id) ∧
      ∀ topic id,
        ((r.remove topic id).result = true ↔ id ∈ r.idsOf topic) ∧
        (r.remove topic id).registry = r.without topic id ∧
        ((r.remove topic id).result = false →
          (r.remove topic id).registry = r ∧ (r.remove topic id).announcement = none) := by
  intro r
  have horderly : r.Orderly := orderly_run track ops
  have hattended : r.Attended := attended_run track ops
  refine ⟨horderly.distinct, hattended, horderly.ascending, horderly.nodup_ids, ?_,
    issued_eq_range track ops, fun topic id => mem_idsOf_run_iff, ?_⟩
  · intro topic id hid
    rw [← lastHandler_run track ops]
    exact horderly.issued topic id hid
  · intro topic id
    exact ⟨remove_result_iff, remove_eq_without horderly.distinct hattended topic id,
      remove_of_result⟩

/-- A topic is closed and comes again; the id of its first life is no longer its own. -/
example :
    let r : Registry Unit :=
      run true [.add "t" (), .publish 1 (.publish "t" 1 .close none), .add "t" ()]
    r.idsOf "t" = [2] ∧ (r.remove "t" 1).result = false ∧ (r.remove "t" 2).result = true := by
  decide

end Registry

end TopicClient
