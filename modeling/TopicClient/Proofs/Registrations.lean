import TopicClient.Proofs.TopicRuns

/-!
# Registrations

The handlers of a topic are a list that grows at its end. Ids are handed out in order
and never twice, so the ids of a topic ascend in the order of registration, and no id
stands under two topics.
-/

namespace TopicClient.Registry

variable {H : Type}

/-- The handlers of a topic; a topic that is not tracked has none. -/
def handlersOf (topic : String) (r : Registry H) : List (HandlerId × H) :=
  ((r.find? topic).map Subscription.handlers).getD []

/-- The ids registered for a topic, in the order of registration. -/
def idsOf (topic : String) (r : Registry H) : List HandlerId := Assoc.keys (r.handlersOf topic)

theorem handlersOf_of_find? {topic : String} {r : Registry H} {s : Subscription H}
    (h : r.find? topic = some s) : r.handlersOf topic = s.handlers := by
  rw [handlersOf, h]
  rfl

theorem handlersOf_apply_self (op : Op H) {r : Registry H} (hr : Assoc.Distinct r.topics) :
    (op.apply r).handlersOf op.topic = ((op.after? r).map Subscription.handlers).getD [] := by
  rw [handlersOf, find?_apply_self op hr]

theorem handlersOf_apply_of_ne {op : Op H} {topic : String} (h : topic ≠ op.topic)
    (r : Registry H) : (op.apply r).handlersOf topic = r.handlersOf topic := by
  rw [handlersOf, find?_apply_of_ne h, handlersOf]

theorem handlersOf_add {r : Registry H} (hr : Assoc.Distinct r.topics) (topic : String) (h : H) :
    ((Op.add topic h).apply r).handlersOf topic =
      r.handlersOf topic ++ [(r.lastHandler + 1, h)] := by
  refine (handlersOf_apply_self (.add topic h) hr).trans ?_
  rw [Op.after?, handlersOf]
  cases r.find? topic <;> rfl

theorem filter_of_not_any {handlers : List (HandlerId × H)} {id : HandlerId}
    (h : ¬ handlers.any (·.1 = id) = true) : handlers.filter (·.1 ≠ id) = handlers := by
  refine List.filter_eq_self.mpr ?_
  intro e he
  have hne : ¬ e.1 = id := fun heq => h (List.any_eq_true.mpr ⟨e, he, by simpa using heq⟩)
  simpa using hne

/-- Leaving takes one handler out, whether it was the last one or not there at all. -/
theorem handlersOf_remove {r : Registry H} (hr : Assoc.Distinct r.topics) (topic : String)
    (id : HandlerId) :
    ((Op.remove topic id).apply r).handlersOf topic =
      (r.handlersOf topic).filter (·.1 ≠ id) := by
  refine (handlersOf_apply_self (.remove topic id) hr).trans ?_
  rw [Op.after?]
  cases hfound : r.find? topic with
  | none =>
    rw [handlersOf, hfound]
    rfl
  | some s =>
    rw [handlersOf_of_find? hfound, Option.bind_some, Subscription.left?]
    by_cases hany : s.handlers.any (·.1 = id) = true
    · by_cases hleft : (s.handlers.filter (·.1 ≠ id)).isEmpty = true
      · simp only [if_pos hany, if_pos hleft]
        exact (List.isEmpty_iff.mp hleft).symm
      · simp only [if_pos hany, if_neg hleft]
        rfl
    · simp only [if_neg hany]
      exact (filter_of_not_any hany).symm

/-- A publish lets all handlers of its topic go if it closes it, and else none. -/
theorem handlersOf_publish {r : Registry H} (hr : Assoc.Distinct r.topics) (now : Int)
    (m : Message) :
    ((Op.publish now m).apply r).handlersOf m.topic =
      if m.update.getD .diff = .close then [] else r.handlersOf m.topic := by
  refine (handlersOf_apply_self (.publish now m) hr).trans ?_
  rw [Op.after?]
  cases hfound : r.find? m.topic with
  | none =>
    rw [handlersOf, hfound]
    simp
  | some s =>
    rw [handlersOf_of_find? hfound, Option.bind_some, Subscription.published?]
    cases m.update.getD .diff <;> rfl

theorem lastHandler_add (topic : String) (h : H) (r : Registry H) :
    ((Op.add topic h).apply r).lastHandler = r.lastHandler + 1 := by
  simp only [Op.apply, add]
  cases r.find? topic <;> rfl

theorem lastHandler_remove (topic : String) (id : HandlerId) (r : Registry H) :
    ((Op.remove topic id).apply r).lastHandler = r.lastHandler := by
  simp only [Op.apply, remove]
  cases r.find? topic with
  | none => rfl
  | some s => dsimp only; split_ifs <;> rfl

theorem lastHandler_publish (now : Int) (m : Message) (r : Registry H) :
    ((Op.publish now m).apply r).lastHandler = r.lastHandler := by
  simp only [Op.apply, publish]
  cases r.find? m.topic with
  | none => rfl
  | some s => cases m.update.getD .diff <;> rfl

theorem lastHandler_le (op : Op H) (r : Registry H) :
    r.lastHandler ≤ (op.apply r).lastHandler := by
  cases op with
  | add topic h =>
    rw [lastHandler_add]
    exact Nat.le_succ _
  | remove topic id => rw [lastHandler_remove]
  | publish now m => rw [lastHandler_publish]

/-- The ids of a topic ascend, none is ahead of the last one handed out, and none stands
under two topics. -/
structure Orderly (r : Registry H) : Prop where
  distinct : Assoc.Distinct r.topics
  ascending : ∀ topic, (r.idsOf topic).Pairwise (· < ·)
  issued : ∀ topic, ∀ id ∈ r.idsOf topic, id ≤ r.lastHandler
  apart : ∀ id topic other, id ∈ r.idsOf topic → id ∈ r.idsOf other → topic = other

/-- An operation that registers nobody leaves every topic with some of its ids. -/
theorem Orderly.of_sublist {r r' : Registry H} (h : r.Orderly)
    (hdistinct : Assoc.Distinct r'.topics) (hlast : r.lastHandler ≤ r'.lastHandler)
    (hids : ∀ topic, List.Sublist (r'.idsOf topic) (r.idsOf topic)) : r'.Orderly := by
  refine ⟨hdistinct, ?_, ?_, ?_⟩
  · intro topic
    exact (h.ascending topic).sublist (hids topic)
  · intro topic id hid
    exact le_trans (h.issued topic id ((hids topic).subset hid)) hlast
  · intro id topic other hid hother
    exact h.apart id topic other ((hids topic).subset hid) ((hids other).subset hother)

theorem idsOf_apply_of_ne {op : Op H} {topic : String} (h : topic ≠ op.topic)
    (r : Registry H) : (op.apply r).idsOf topic = r.idsOf topic := by
  rw [idsOf, handlersOf_apply_of_ne h, idsOf]

theorem idsOf_add {r : Registry H} (hr : Assoc.Distinct r.topics) (topic other : String) (h : H) :
    ((Op.add topic h).apply r).idsOf other =
      if other = topic then r.idsOf topic ++ [r.lastHandler + 1] else r.idsOf other := by
  by_cases hother : other = topic
  · subst hother
    rw [if_pos rfl, idsOf, handlersOf_add hr, Assoc.keys_append]
    rfl
  · rw [if_neg hother, idsOf_apply_of_ne hother]

theorem idsOf_remove {r : Registry H} (hr : Assoc.Distinct r.topics) (topic : String)
    (id : HandlerId) :
    ((Op.remove topic id).apply r).idsOf topic = (r.idsOf topic).filter (· ≠ id) := by
  rw [idsOf, handlersOf_remove hr, idsOf, Assoc.keys, Assoc.keys, List.filter_map]
  rfl

theorem idsOf_publish {r : Registry H} (hr : Assoc.Distinct r.topics) (now : Int) (m : Message) :
    ((Op.publish now m).apply r).idsOf m.topic =
      if m.update.getD .diff = .close then [] else r.idsOf m.topic := by
  rw [idsOf, handlersOf_publish hr]
  split <;> rfl

/-- A topic has the ids that it had, and the new one if it is the one that is joined. -/
theorem mem_idsOf_add {r : Registry H} (hr : Assoc.Distinct r.topics) {topic other : String}
    {handler : H} {id : HandlerId} (h : id ∈ ((Op.add topic handler).apply r).idsOf other) :
    id ∈ r.idsOf other ∨ (other = topic ∧ id = r.lastHandler + 1) := by
  rw [idsOf_add hr] at h
  by_cases hother : other = topic
  · subst hother
    rw [if_pos rfl, List.mem_append, List.mem_singleton] at h
    exact h.imp_right fun heq => ⟨rfl, heq⟩
  · rw [if_neg hother] at h
    exact .inl h

theorem Orderly.add {r : Registry H} (h : r.Orderly) (topic : String) (handler : H) :
    ((Op.add topic handler).apply r).Orderly := by
  have hfresh : ∀ other, r.lastHandler + 1 ∉ r.idsOf other := by
    intro other hid
    exact Nat.not_succ_le_self _ (h.issued other _ hid)
  refine ⟨distinct_apply (.add topic handler) h.distinct, ?_, ?_, ?_⟩
  · intro other
    rw [idsOf_add h.distinct]
    by_cases hother : other = topic
    · rw [if_pos hother, List.pairwise_append]
      refine ⟨h.ascending topic, List.pairwise_singleton _ _, ?_⟩
      intro id hid new hnew
      rw [List.mem_singleton.mp hnew]
      exact Nat.lt_succ_of_le (h.issued topic id hid)
    · rw [if_neg hother]
      exact h.ascending other
  · intro other id hid
    rw [lastHandler_add]
    rcases mem_idsOf_add h.distinct hid with hknown | ⟨-, rfl⟩
    · exact Nat.le_succ_of_le (h.issued other id hknown)
    · exact le_rfl
  · intro id first second hfirst hsecond
    rcases mem_idsOf_add h.distinct hfirst with hknown | ⟨rfl, rfl⟩
    · rcases mem_idsOf_add h.distinct hsecond with hother | ⟨-, rfl⟩
      · exact h.apart id first second hknown hother
      · exact absurd hknown (hfresh first)
    · rcases mem_idsOf_add h.distinct hsecond with hother | ⟨rfl, -⟩
      · exact absurd hother (hfresh second)
      · rfl

theorem Orderly.apply {r : Registry H} (h : r.Orderly) (op : Op H) : (op.apply r).Orderly := by
  have hdistinct := distinct_apply op h.distinct
  cases op with
  | add topic handler => exact h.add topic handler
  | remove topic id =>
    refine h.of_sublist hdistinct (lastHandler_le _ r) ?_
    intro other
    by_cases hother : other = topic
    · subst hother
      rw [idsOf_remove h.distinct]
      exact List.filter_sublist
    · rw [idsOf_apply_of_ne hother]
  | publish now m =>
    refine h.of_sublist hdistinct (lastHandler_le _ r) ?_
    intro other
    by_cases hother : other = m.topic
    · subst hother
      rw [idsOf_publish h.distinct]
      split
      · exact List.nil_sublist _
      · exact List.Sublist.refl _
    · rw [idsOf_apply_of_ne hother]

theorem orderly_run (track : Bool) (ops : List (Op H)) : (run track ops).Orderly := by
  induction ops using List.reverseRecOn with
  | nil =>
    have hempty : ∀ topic, (run track ([] : List (Op H))).idsOf topic = [] := fun topic => rfl
    refine ⟨List.nodup_nil, ?_, ?_, ?_⟩
    · intro topic
      rw [hempty]
      exact List.Pairwise.nil
    · intro topic id hid
      rw [hempty] at hid
      cases hid
    · intro id topic other hid
      rw [hempty] at hid
      cases hid
  | append_singleton ops op ih =>
    rw [run_snoc]
    exact ih.apply op

end TopicClient.Registry
