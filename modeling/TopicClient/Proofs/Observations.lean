import Mathlib.Data.List.Dedup
import Mathlib.Data.List.Perm.Basic
import TopicClient.Proofs.Announcements

/-!
# What the server was last told

The server is told of a topic that comes with its first handler and of one that goes with
its last. Of those that it closes itself it knows. So the topics tracked are always those
that it was last told of, without the ones that it has closed since.
-/

namespace TopicClient

/-! ## Orders of names -/

/-- What remains of distinct names in their order is known by what remains. -/
theorem eq_filter_of_sublist {left names : List String} (h : left.Sublist names)
    (distinct : names.Nodup) : left = names.filter (· ∈ left) := by
  refine (List.Nodup.perm_iff_eq_of_sublist distinct h List.filter_sublist).mp ?_
  refine (List.perm_ext_iff_of_nodup (distinct.sublist h) (distinct.filter _)).mpr ?_
  intro name
  rw [List.mem_filter, decide_eq_true_iff]
  exact ⟨fun hmem => ⟨h.subset hmem, hmem⟩, And.right⟩

/-- Of a name that repeats, the last place counts. -/
theorem dedup_snoc (names : List String) (name : String) :
    (names ++ [name]).dedup = names.dedup.filter (· ≠ name) ++ [name] := by
  induction names with
  | nil => rfl
  | cons x names ih =>
    rw [List.cons_append]
    by_cases hmem : x ∈ names
    · rw [List.dedup_cons_of_mem hmem, List.dedup_cons_of_mem (by simp [hmem]), ih]
    · rw [List.dedup_cons_of_notMem hmem]
      by_cases hx : x = name
      · subst hx
        rw [List.dedup_cons_of_mem (by simp), ih]
        simp
      · rw [List.dedup_cons_of_notMem (by simp [hmem, hx]), ih]
        simp [hx]

namespace Registry
variable {H : Type}

namespace Op

/-- What the server is told of an operation. Of a publish it knows. -/
def announcement? (r : Registry H) : Op H → Option Message
  | .add topic h => (r.add topic h).announcement
  | .remove topic id => (r.remove topic id).announcement
  | .publish _ _ => none

/-- The topic that an operation makes tracked. -/
def opened? (r : Registry H) (op : Op H) : Option String :=
  if op.topic ∉ r.names ∧ op.topic ∈ (op.apply r).names then some op.topic else none

/-- The topic that the server closes, tracked or not. -/
def closed? : Op H → Option String
  | .publish _ m => if m.update.getD .diff = .close then some m.topic else none
  | _ => none

end Op

/-- What the operations yield, each in the registry that it finds. -/
def along {α : Type} (f : Registry H → Op H → Option α) (r : Registry H) : List (Op H) → List α
  | [] => []
  | op :: ops => (f r op).toList ++ along f (op.apply r) ops

/-- What an observer is told in the course of the operations. -/
def observed (track : Bool) : List (Op H) → List Message :=
  along (fun r op => op.announcement? r) { track := track }

/-- The topics in the order in which they became tracked. One that was dropped or closed may
come again. -/
def openings (track : Bool) : List (Op H) → List String :=
  along (fun r op => op.opened? r) { track := track }

theorem along_append {α : Type} (f : Registry H → Op H → Option α) (ops more : List (Op H))
    (r : Registry H) :
    along f r (ops ++ more) =
      along f r ops ++ along f (ops.foldl (fun r op => op.apply r) r) more := by
  induction ops generalizing r with
  | nil => rfl
  | cons op ops ih => rw [List.cons_append, along, along, ih, List.foldl_cons, List.append_assoc]

theorem observed_snoc (track : Bool) (ops : List (Op H)) (op : Op H) :
    observed track (ops ++ [op]) =
      observed track ops ++ (op.announcement? (run track ops)).toList := by
  rw [observed, along_append, along, along, List.append_nil, run]

theorem openings_snoc (track : Bool) (ops : List (Op H)) (op : Op H) :
    openings track (ops ++ [op]) = openings track ops ++ (op.opened? (run track ops)).toList := by
  rw [openings, along_append, along, along, List.append_nil, run]

/-! ## The names after an operation -/

theorem mem_names_iff {topic : String} {r : Registry H} :
    topic ∈ r.names ↔ (r.find? topic).isSome :=
  Assoc.find?_isSome_iff.symm

section Names
variable {r : Registry H}

theorem mem_names_apply (hr : Assoc.Distinct r.topics) (op : Op H) :
    op.topic ∈ (op.apply r).names ↔ (op.after? r).isSome := by
  rw [mem_names_iff, find?_apply_self op hr]

/-- A topic that is new comes last. -/
theorem names_opened (hr : Assoc.Distinct r.topics) {op : Op H} {topic : String}
    (h : op.opened? r = some topic) : topic ∉ r.names ∧ (op.apply r).names = r.names ++ [topic] := by
  rw [Op.opened?, Option.ite_none_right_eq_some] at h
  obtain ⟨⟨hnew, hthere⟩, htopic⟩ := h
  obtain rfl := Option.some.inj htopic
  refine ⟨hnew, ?_⟩
  rcases topics_apply op r with ⟨htopics, -⟩ | ⟨hafter, -⟩ | ⟨s, -, htopics⟩
  · rw [names, htopics] at hthere
    exact absurd hthere hnew
  · rw [mem_names_apply hr, hafter] at hthere
    cases hthere
  · rw [names, htopics, Assoc.keys_put]
    exact if_neg hnew

/-- If no topic is new, those that stay keep their order. -/
theorem names_kept (hr : Assoc.Distinct r.topics) {op : Op H} (h : op.opened? r = none) :
    (op.apply r).names = r.names.filter (· ∈ (op.apply r).names) := by
  refine eq_filter_of_sublist ?_ hr
  rcases topics_apply op r with ⟨htopics, -⟩ | ⟨-, htopics⟩ | ⟨s, hafter, htopics⟩
  · rw [names, htopics]
    exact .refl _
  · rw [names, htopics]
    exact Assoc.keys_erase_sublist _ _
  · have hthere : op.topic ∈ (op.apply r).names := by
      rw [mem_names_apply hr, hafter]
      rfl
    have hold : op.topic ∈ r.names := by
      by_contra hnew
      rw [Op.opened?, if_pos ⟨hnew, hthere⟩] at h
      cases h
    have hput := Assoc.keys_put op.topic s r.topics
    rw [names, htopics, hput.trans (if_pos hold)]
    exact .refl _

theorem published?_eq_none {now : Int} {track : Bool} {m : Message} {s : Subscription H} :
    s.published? now track m = none ↔ m.update.getD .diff = .close := by
  rw [Subscription.published?]
  cases m.update.getD .diff <;> simp

/-- A publish takes away the topic that it closes, and no other. -/
theorem names_published (hr : Assoc.Distinct r.topics) (now : Int) (m : Message) :
    (r.publish now m).registry.names =
      r.names.filter fun t => (Op.publish (H := H) now m).closed? ≠ some t := by
  have hopened : (Op.publish (H := H) now m).opened? r = none :=
    if_neg fun ⟨hnew, hthere⟩ => hnew (names_publish now m r _ hthere)
  refine (names_kept hr hopened).trans (List.filter_congr fun t ht => ?_)
  rw [decide_eq_decide]
  by_cases htopic : t = m.topic
  · subst htopic
    obtain ⟨s, hs⟩ := Option.isSome_iff_exists.mp (mem_names_iff.mp ht)
    have hthere := mem_names_apply hr (.publish now m)
    rw [Op.after?, hs, Option.bind_some, Option.isSome_iff_ne_none, ne_eq,
      published?_eq_none] at hthere
    refine hthere.trans ?_
    simp [Op.closed?]
  · rw [mem_names_iff, find?_apply_of_ne htopic, ← mem_names_iff, Op.closed?]
    simp [ht, Ne.symm htopic]

/-! ## What is told -/

theorem announcement_add (topic : String) (h : H) (r : Registry H) :
    (r.add topic h).announcement =
      if topic ∈ r.names then none else some (r.add topic h).registry.subscribeMessage := by
  rw [add]
  cases hfound : r.find? topic with
  | none => exact (if_neg (Assoc.find?_eq_none_iff.mp hfound)).symm
  | some s => exact (if_pos (mem_names hfound)).symm

theorem announcement_remove (hr : Assoc.Distinct r.topics) (topic : String) (id : HandlerId) :
    (r.remove topic id).announcement =
      if topic ∈ r.names ∧ topic ∉ (r.remove topic id).registry.names then
        some (r.remove topic id).registry.subscribeMessage
      else none := by
  rw [remove]
  cases hfound : r.find? topic with
  | none => exact (if_neg fun h => h.2 h.1).symm
  | some s =>
    by_cases hany : s.handlers.any (·.1 = id) = true
    · by_cases hleft : (s.handlers.filter (·.1 ≠ id)).isEmpty = true
      · simp only [if_pos hany, if_pos hleft]
        have hgone : topic ∉ Assoc.keys (Assoc.erase topic r.topics) :=
          Assoc.find?_eq_none_iff.mp (Assoc.find?_erase_self hr)
        exact (if_pos ⟨mem_names hfound, hgone⟩).symm
      · simp only [if_pos hany, if_neg hleft]
        refine (if_neg fun h => h.2 ?_).symm
        exact Assoc.find?_isSome_iff.mp (by rw [Assoc.find?_put_self]; rfl)
    · simp only [if_neg hany]
      exact (if_neg fun h => h.2 h.1).symm

/-- Either an operation is told, with the topics of that moment, or the topics stay without
the one that it closes. -/
theorem told_or_kept (hr : Assoc.Distinct r.topics) (op : Op H) :
    op.announcement? r = some (op.apply r).subscribeMessage ∨
      (op.announcement? r = none ∧
        (op.apply r).names = r.names.filter fun t => op.closed? ≠ some t) := by
  have hall : r.names = r.names.filter fun t => (none : Option String) ≠ some t := by simp
  cases op with
  | add topic h =>
    rcases names_add topic h r with ⟨hnone, hnames⟩ | htold
    · exact .inr ⟨hnone, hnames.trans hall⟩
    · exact .inl htold
  | remove topic id =>
    rcases names_remove topic id r with ⟨hnone, hnames⟩ | htold
    · exact .inr ⟨hnone, hnames.trans hall⟩
    · exact .inl htold
  | publish now m => exact .inr ⟨rfl, names_published hr now m⟩

end Names

/-! ## Runs -/

/-- The topics stand in the order in which they came last. -/
theorem names_run (track : Bool) (ops : List (Op H)) :
    (run track ops).names = (openings track ops).dedup.filter (· ∈ (run track ops).names) := by
  induction ops using List.reverseRecOn with
  | nil => rfl
  | append_singleton ops op ih =>
    have hr := (run_keeps track ops).1
    rw [run_snoc, openings_snoc]
    cases hopened : op.opened? (run track ops) with
    | none =>
      have hkept := names_kept hr hopened
      have hsub : ∀ t ∈ (op.apply (run track ops)).names, t ∈ (run track ops).names := by
        intro t ht
        rw [hkept] at ht
        exact List.mem_of_mem_filter ht
      calc (op.apply (run track ops)).names
          = (run track ops).names.filter (· ∈ (op.apply (run track ops)).names) := hkept
        _ = ((openings track ops).dedup.filter (· ∈ (run track ops).names)).filter
              (· ∈ (op.apply (run track ops)).names) := by rw [← ih]
        _ = _ := by
            rw [List.filter_filter, Option.toList_none, List.append_nil]
            exact List.filter_congr fun t _ => by simpa using hsub t
    | some topic =>
      obtain ⟨hnew, hnames⟩ := names_opened hr hopened
      rw [hnames, Option.toList_some, dedup_snoc, List.filter_append, List.filter_filter]
      nth_rewrite 1 [ih]
      refine congrArg₂ (· ++ ·) (List.filter_congr fun t _ => ?_) (by simp)
      have hne : t ∈ (run track ops).names → t ≠ topic := by
        rintro ht rfl
        exact hnew ht
      rw [Bool.eq_iff_iff]
      simp only [decide_eq_true_iff, Bool.and_eq_true, List.mem_append, List.mem_singleton]
      tauto

/-- The topics are those last told of, without those closed since. -/
theorem names_told (track : Bool) (ops : List (Op H)) :
    (observed track ops = [] ∧ (run track ops).names = []) ∨
      ∃ before op after m, ops = before ++ op :: after ∧
        op.announcement? (run track before) = some m ∧
        observed track ops = observed track before ++ [m] ∧
        (run track ops).names = m.listed.filter (· ∉ after.filterMap Op.closed?) := by
  induction ops using List.reverseRecOn with
  | nil => exact .inl ⟨rfl, rfl⟩
  | append_singleton ops op ih =>
    rw [observed_snoc, run_snoc]
    rcases told_or_kept (run_keeps track ops).1 op with htold | ⟨hnone, hnames⟩
    · refine .inr ⟨ops, op, [], _, rfl, htold, by rw [htold]; rfl, ?_⟩
      rw [listed_subscribeMessage]
      simp
    · rw [hnone, Option.toList_none, List.append_nil, hnames]
      rcases ih with ⟨hsilent, hempty⟩ | ⟨before, told, after, m, hops, hm, hlast, hih⟩
      · exact .inl ⟨hsilent, by rw [hempty]; rfl⟩
      · refine .inr ⟨before, told, after ++ [op], m, by simp [hops], hm, hlast, ?_⟩
        rw [hih, List.filter_filter]
        refine List.filter_congr fun t _ => ?_
        cases hclosed : op.closed? <;> simp [hclosed, not_or, and_comm, eq_comm]

/-- What the server was last told matches what is tracked. It is told once of every handler
that brings a topic and of every one that takes its topic with it, and of nothing else. What
it is told then are the topics tracked, in the order in which they came last, each with its
cursor. And the topics tracked are always those it was last told of, in that order, without
those that a publish has closed since. -/
theorem topics_last_told (track : Bool) (ops : List (Op H)) :
    let r := run track ops
    let told (op : Op H) := observed track (ops ++ [op])
    ((∀ topic h, told (.add topic h) = observed track ops ++
          if topic ∈ r.names then [] else [(r.add topic h).registry.subscribeMessage]) ∧
      (∀ topic id, told (.remove topic id) = observed track ops ++
          if topic ∈ r.names ∧ topic ∉ (r.remove topic id).registry.names then
            [(r.remove topic id).registry.subscribeMessage]
          else []) ∧
      ∀ now m, told (.publish now m) = observed track ops) ∧
    (r.names = (openings track ops).dedup.filter (· ∈ r.names) ∧
      ∃ cursors, r.subscribeMessage = .subscribe cursors ∧ cursors.topics = r.names ∧
        ∀ topic, Assoc.find? topic cursors.entries = (r.find? topic).map Subscription.ts) ∧
    ((observed track ops = [] ∧ r.names = []) ∨
      ∃ before op after m, ops = before ++ op :: after ∧
        op.announcement? (run track before) = some m ∧
        observed track ops = observed track before ++ [m] ∧
        r.names = m.listed.filter (· ∉ after.filterMap Op.closed?)) := by
  intro r told
  have hr := (run_keeps track ops).1
  refine ⟨⟨?_, ?_, ?_⟩, ⟨names_run track ops, r.cursors, rfl, ?_, ?_⟩, names_told track ops⟩
  · intro topic h
    refine (observed_snoc track ops _).trans ?_
    rw [Op.announcement?, announcement_add]
    split_ifs <;> rfl
  · intro topic id
    refine (observed_snoc track ops _).trans ?_
    rw [Op.announcement?, announcement_remove hr]
    split_ifs <;> rfl
  · intro now m
    refine (observed_snoc track ops _).trans ?_
    rw [Op.announcement?, Option.toList_none, List.append_nil]
  · exact listed_subscribeMessage r
  · intro topic
    exact Assoc.find?_map Subscription.ts topic r.topics

/-- A topic that comes again after it was closed comes last. -/
example :
    let ops : List (Op Unit) := [.add "a" (), .add "b" (), .publish 0 (.publish "a" 1 .close none),
      .add "b" (), .remove "b" 1, .add "a" ()]
    (observed true ops).map Message.listed = [["a"], ["a", "b"], ["b", "a"]] := by
  decide +kernel

end Registry

end TopicClient
