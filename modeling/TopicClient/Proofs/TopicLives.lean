import TopicClient.Proofs.TopicRuns

/-!
# The life of a topic

A topic lives from the handler that makes it tracked. Its cursor and its snapshot
are what the publishes to it since then say; an earlier life, another topic and
updates that carry no state leave no trace in them.
-/

namespace TopicClient

/-- A publish and the time at which it was applied. -/
abbrev TimedPublish := Int × Message

namespace TimedPublish

/-- How the body applies; by default as a diff. -/
def mode (e : TimedPublish) : UpdateKind := e.2.update.getD .diff

/-- The time of the last publish that carries one, or zero. -/
def cursor (es : List TimedPublish) : Int64 :=
  (es.filterMap fun e => e.2.ts).getLast?.getD 0

/-- The bodies of the diffs, with the times of their merges. -/
def diffs (es : List TimedPublish) : List (Int × Json) :=
  es.filterMap fun e => if e.mode = .diff then e.2.body.map fun d => (e.1, d) else none

theorem cursor_snoc (es : List TimedPublish) (e : TimedPublish) :
    cursor (es ++ [e]) = e.2.ts.getD (cursor es) := by
  simp only [cursor]
  rw [List.filterMap_append]
  cases hts : e.2.ts with
  | none => simp [hts]
  | some ts => simp [hts]

theorem diffs_snoc_of_ne {e : TimedPublish} (h : e.mode ≠ .diff) (es : List TimedPublish) :
    diffs (es ++ [e]) = diffs es := by
  simp [diffs, h]

theorem diffs_eq_nil {es : List TimedPublish} (h : ∀ e ∈ es, e.mode ≠ .diff) :
    diffs es = [] := by
  refine List.filterMap_eq_nil_iff.mpr ?_
  intro e he
  rw [if_neg (h e he)]

end TimedPublish

open TimedPublish

/-- Merges one after the other. -/
def Snapshot.mergeAll (s : Snapshot) (ds : List (Int × Json)) : Snapshot :=
  ds.foldl (fun s d => s.merge d.1 d.2) s

theorem Registry.merged_mergeAll {e : TimedPublish} (h : e.mode = .diff) (track : Bool)
    (s : Snapshot) (es : List TimedPublish) :
    Registry.merged e.1 track e.2.body (some (s.mergeAll (diffs es))) =
      s.mergeAll (diffs (es ++ [e])) := by
  simp only [diffs, List.filterMap_append, Snapshot.mergeAll, List.foldl_append,
    List.filterMap_cons, if_pos h, List.filterMap_nil]
  cases hbody : e.2.body <;> rfl

/-- A subscription in the state that these publishes leave it in. -/
structure Subscription.Follows {H : Type} (track : Bool) (es : List TimedPublish)
    (s : Subscription H) : Prop where
  cursor : s.ts = cursor es
  absent : s.snapshot = none ↔ ∀ e ∈ es, e.mode ≠ .full ∧ e.mode ≠ .diff
  full : ∀ before e after, es = before ++ e :: after → e.mode = .full →
    (∀ e ∈ after, e.mode ≠ .full) →
      s.snapshot = some ((Snapshot.ofJson track (e.2.body.getD .null)).mergeAll (diffs after))
  diff : (∀ e ∈ es, e.mode ≠ .full) → (∃ e ∈ es, e.mode = .diff) →
    s.snapshot = some ((Snapshot.empty track).mergeAll (diffs es))

namespace Subscription
variable {H : Type}

theorem published?_cases {track : Bool} {e : TimedPublish} {s s' : Subscription H}
    (h : s.published? e.1 track e.2 = some s') :
    s'.ts = e.2.ts.getD s.ts ∧
      ((e.mode = .full ∧ s'.snapshot = some (.ofJson track (e.2.body.getD .null))) ∨
       (e.mode = .diff ∧
         s'.snapshot = some (Registry.merged e.1 track e.2.body s.snapshot)) ∨
       (e.mode ≠ .full ∧ e.mode ≠ .diff ∧ s'.snapshot = s.snapshot)) := by
  unfold published? at h
  unfold mode
  cases hmode : e.2.update.getD .diff with
  | close => simp [hmode] at h
  | full =>
    obtain rfl := Option.some.inj (by simpa only [hmode] using h)
    exact ⟨rfl, .inl ⟨rfl, rfl⟩⟩
  | diff =>
    obtain rfl := Option.some.inj (by simpa only [hmode] using h)
    exact ⟨rfl, .inr (.inl ⟨rfl, rfl⟩)⟩
  | _ =>
    obtain rfl := Option.some.inj (by simpa only [hmode] using h)
    exact ⟨rfl, .inr (.inr ⟨nofun, nofun, rfl⟩)⟩

theorem follows_nil (track : Bool) (handlers : List (HandlerId × H)) :
    Follows track [] { handlers := handlers } where
  cursor := rfl
  absent := by simp
  full := by simp
  diff := by simp

end Subscription

/-- The last of a list is apart from what comes before it. -/
theorem split_snoc {α : Type} {es before after : List α} {e x : α}
    (h : es ++ [e] = before ++ x :: after) :
    (after = [] ∧ x = e) ∨ ∃ mid, after = mid ++ [e] ∧ es = before ++ x :: mid := by
  rcases List.eq_nil_or_concat after with rfl | ⟨mid, y, rfl⟩
  · obtain ⟨-, hx⟩ := List.append_inj' h rfl
    exact .inl ⟨rfl, (List.singleton_inj.mp hx).symm⟩
  · have hassoc : es ++ [e] = (before ++ x :: mid) ++ [y] := by simpa using h
    obtain ⟨hes, hy⟩ := List.append_inj' hassoc rfl
    obtain rfl := List.singleton_inj.mp hy
    exact .inr ⟨mid, by simp, hes⟩

namespace Subscription
variable {H : Type}

theorem left?_keeps {id : HandlerId} {s s' : Subscription H} (h : s.left? id = some s') :
    s'.ts = s.ts ∧ s'.snapshot = s.snapshot := by
  simp only [left?] at h
  split_ifs at h
  · obtain rfl := Option.some.inj h
    exact ⟨rfl, rfl⟩
  · obtain rfl := Option.some.inj h
    exact ⟨rfl, rfl⟩

theorem Follows.congr {track : Bool} {es : List TimedPublish} {s s' : Subscription H}
    (h : s.Follows track es) (hts : s'.ts = s.ts) (hsnap : s'.snapshot = s.snapshot) :
    s'.Follows track es :=
  ⟨hts ▸ h.cursor, hsnap ▸ h.absent, hsnap ▸ h.full, hsnap ▸ h.diff⟩

section Snoc
variable {track : Bool} {es : List TimedPublish} {e : TimedPublish} {s s' : Subscription H}

/-- What the next diff is merged into, as long as nothing has come whole. -/
theorem Follows.base (h : s.Follows track es) (hnofull : ∀ e ∈ es, e.mode ≠ .full) :
    s.snapshot.getD (.empty track) = (Snapshot.empty track).mergeAll (diffs es) := by
  by_cases hex : ∃ e ∈ es, e.mode = .diff
  · rw [h.diff hnofull hex]
    rfl
  · have hnodiff : ∀ e ∈ es, e.mode ≠ .diff := fun e he hdiff => hex ⟨e, he, hdiff⟩
    have habsent : s.snapshot = none := h.absent.mpr fun e he => ⟨hnofull e he, hnodiff e he⟩
    rw [habsent, diffs_eq_nil hnodiff]
    rfl

theorem Follows.snoc_full (hcursor : s'.ts = TimedPublish.cursor (es ++ [e]))
    (hfull : e.mode = .full)
    (hsnap : s'.snapshot = some (.ofJson track (e.2.body.getD .null))) :
    s'.Follows track (es ++ [e]) := by
  refine ⟨hcursor, ?_, ?_, ?_⟩
  · rw [hsnap]
    constructor
    · nofun
    · intro hnone
      exact absurd hfull (hnone e (by simp)).1
  · intro before x after hes hx hafter
    rcases split_snoc hes with ⟨rfl, rfl⟩ | ⟨mid, rfl, -⟩
    · exact hsnap
    · exact absurd hfull (hafter e (by simp))
  · intro hno _
    exact absurd hfull (hno e (by simp))

theorem Follows.snoc_diff (h : s.Follows track es)
    (hcursor : s'.ts = TimedPublish.cursor (es ++ [e])) (hdiff : e.mode = .diff)
    (hsnap : s'.snapshot = some (Registry.merged e.1 track e.2.body s.snapshot)) :
    s'.Follows track (es ++ [e]) := by
  have hne : e.mode ≠ .full := by
    rw [hdiff]
    nofun
  refine ⟨hcursor, ?_, ?_, ?_⟩
  · rw [hsnap]
    constructor
    · nofun
    · intro hnone
      exact absurd hdiff (hnone e (by simp)).2
  · intro before x after hes hx hafter
    rcases split_snoc hes with ⟨rfl, rfl⟩ | ⟨mid, rfl, hsplit⟩
    · exact absurd hx hne
    · have hold := h.full before x mid hsplit hx fun y hy => hafter y (by simp [hy])
      rw [hsnap, hold, Registry.merged_mergeAll hdiff]
  · intro hno _
    have hbase := h.base fun y hy => hno y (by simp [hy])
    rw [hsnap, ← Registry.merged_mergeAll hdiff track, ← hbase]
    rfl

theorem Follows.snoc_other (h : s.Follows track es)
    (hcursor : s'.ts = TimedPublish.cursor (es ++ [e])) (hnofull : e.mode ≠ .full)
    (hnodiff : e.mode ≠ .diff) (hsnap : s'.snapshot = s.snapshot) :
    s'.Follows track (es ++ [e]) := by
  refine ⟨hcursor, ?_, ?_, ?_⟩
  · rw [hsnap, h.absent]
    constructor
    · intro hall y hy
      rcases List.mem_append.mp hy with hy | hy
      · exact hall y hy
      · obtain rfl := List.mem_singleton.mp hy
        exact ⟨hnofull, hnodiff⟩
    · intro hall y hy
      exact hall y (by simp [hy])
  · intro before x after hes hx hafter
    rcases split_snoc hes with ⟨rfl, rfl⟩ | ⟨mid, rfl, hsplit⟩
    · exact absurd hx hnofull
    · rw [hsnap, diffs_snoc_of_ne hnodiff]
      exact h.full before x mid hsplit hx fun y hy => hafter y (by simp [hy])
  · rintro hno ⟨y, hy, hydiff⟩
    rw [hsnap, diffs_snoc_of_ne hnodiff]
    rcases List.mem_append.mp hy with hy | hy
    · exact h.diff (fun z hz => hno z (by simp [hz])) ⟨y, hy, hydiff⟩
    · obtain rfl := List.mem_singleton.mp hy
      exact absurd hydiff hnodiff

/-- A publish is the next one to follow. -/
theorem Follows.snoc (h : s.Follows track es) (hs : s.published? e.1 track e.2 = some s') :
    s'.Follows track (es ++ [e]) := by
  obtain ⟨hts, hmode⟩ := published?_cases hs
  have hcursor : s'.ts = TimedPublish.cursor (es ++ [e]) := by
    rw [hts, h.cursor, cursor_snoc]
  rcases hmode with ⟨hfull, hsnap⟩ | ⟨hdiff, hsnap⟩ | ⟨hnofull, hnodiff, hsnap⟩
  · exact .snoc_full hcursor hfull hsnap
  · exact h.snoc_diff hcursor hdiff hsnap
  · exact h.snoc_other hcursor hnofull hnodiff hsnap

end Snoc

end Subscription

namespace Registry
variable {H : Type}

/-- The publishes to a topic. -/
def publishesTo (topic : String) (ops : List (Op H)) : List TimedPublish :=
  ops.filterMap fun
    | .publish now m => if m.topic = topic then some (now, m) else none
    | _ => none

theorem publishesTo_append (topic : String) (ops more : List (Op H)) :
    publishesTo topic (ops ++ more) = publishesTo topic ops ++ publishesTo topic more :=
  List.filterMap_append

/-- A tracked topic has just begun to live, has been published to, or is as it was
but for its handlers. -/
theorem find?_apply_cases {op : Op H} {r : Registry H} {topic : String}
    {s' : Subscription H} (hr : Assoc.Distinct r.topics)
    (h : (op.apply r).find? topic = some s') :
    (r.find? topic = none ∧ ∃ h id, op = .add topic h ∧ s' = { handlers := [(id, h)] }) ∨
    (∃ s, r.find? topic = some s ∧ publishesTo topic [op] = [] ∧
      s'.ts = s.ts ∧ s'.snapshot = s.snapshot) ∨
    (∃ s e, r.find? topic = some s ∧ publishesTo topic [op] = [e] ∧
      s.published? e.1 r.track e.2 = some s') := by
  by_cases hne : topic = op.topic
  · subst hne
    rw [find?_apply_self op hr] at h
    cases op with
    | add topic handler =>
      cases hfound : r.find? topic with
      | none =>
        simp only [Op.after?, hfound, Option.some.injEq] at h
        exact .inl ⟨hfound, handler, _, rfl, h.symm⟩
      | some s =>
        simp only [Op.after?, hfound, Option.some.injEq] at h
        subst h
        exact .inr (.inl ⟨s, hfound, rfl, rfl, rfl⟩)
    | remove topic id =>
      obtain ⟨s, hfound, hleft⟩ := Option.bind_eq_some_iff.mp h
      obtain ⟨hts, hsnap⟩ := Subscription.left?_keeps hleft
      exact .inr (.inl ⟨s, hfound, rfl, hts, hsnap⟩)
    | publish now m =>
      obtain ⟨s, hfound, hpub⟩ := Option.bind_eq_some_iff.mp h
      have hone : publishesTo m.topic [.publish (H := H) now m] = [(now, m)] := by
        simp [publishesTo]
      exact .inr (.inr ⟨s, (now, m), hfound, hone, hpub⟩)
  · rw [find?_apply_of_ne hne] at h
    have hnone : publishesTo topic [op] = [] := by
      cases op with
      | publish now m => simp [publishesTo, Ne.symm (show topic ≠ m.topic from hne)]
      | _ => rfl
    exact .inr (.inl ⟨s', h, hnone, rfl, rfl⟩)

theorem tracked_snoc {track : Bool} {first after : List (Op H)} {op : Op H} {topic : String}
    {s : Subscription H}
    (since : ∀ mid, mid <+: after → ((run track (first ++ mid)).find? topic).isSome = true)
    (last : (run track (first ++ after ++ [op])).find? topic = some s) :
    ∀ mid, mid <+: after ++ [op] → ((run track (first ++ mid)).find? topic).isSome = true := by
  intro mid hmid
  rcases List.prefix_concat_iff.mp hmid with rfl | hmid
  · rw [← List.append_assoc, last]
    rfl
  · exact since mid hmid

/-- The cursor and the snapshot of a tracked topic follow from the publishes to it
since the handler that made it tracked, and from nothing else. -/
theorem tracked_follows (track : Bool) (ops : List (Op H)) {topic : String}
    {s : Subscription H} (tracked : (run track ops).find? topic = some s) :
    ∃ before h after, ops = before ++ .add topic h :: after ∧
      (run track before).find? topic = none ∧
      (∀ mid, mid <+: after →
        ((run track (before ++ [.add topic h] ++ mid)).find? topic).isSome = true) ∧
      s.Follows track (publishesTo topic after) := by
  induction ops using List.reverseRecOn generalizing s with
  | nil => cases tracked
  | append_singleton ops op ih =>
    obtain ⟨hdistinct, htrack⟩ := run_keeps track ops
    have hlast := tracked
    rw [run_snoc] at tracked
    rcases find?_apply_cases hdistinct tracked with
      ⟨hnew, h, id, rfl, rfl⟩ | ⟨s₀, hold, hquiet, hts, hsnap⟩ | ⟨s₀, e, hold, hpublished, hs⟩
    · refine ⟨ops, h, [], rfl, hnew, ?_, Subscription.follows_nil track _⟩
      intro mid hmid
      rw [List.prefix_nil.mp hmid, List.append_nil, hlast]
      rfl
    · obtain ⟨before, h, after, rfl, hnone, hsince, hfollows⟩ := ih hold
      have hsince' := tracked_snoc hsince (by simpa using hlast)
      refine ⟨before, h, after ++ [op], by simp, hnone, hsince', ?_⟩
      · rw [publishesTo_append, hquiet, List.append_nil]
        exact hfollows.congr hts hsnap
    · obtain ⟨before, h, after, rfl, hnone, hsince, hfollows⟩ := ih hold
      have hsince' := tracked_snoc hsince (by simpa using hlast)
      refine ⟨before, h, after ++ [op], by simp, hnone, hsince', ?_⟩
      · rw [publishesTo_append, hpublished]
        rw [htrack] at hs
        exact hfollows.snoc hs

/-- The full update of an earlier life is forgotten, and an update of unknown kind
moves the cursor alone. -/
theorem tracked_follows_anew :
    let ops : List (Op Unit) :=
      [.add "t" (), .publish 1 (.publish "t" 3 .full (some (.bool true))), .remove "t" 1,
       .add "t" (), .publish 2 (.publish "u" 9 .full none),
       .publish 3 (.publish "t" 4 (.other 7) (some .null))]
    let s : Subscription Unit := { ts := 4, handlers := [(2, ())] }
    (run true ops).find? "t" = some s ∧
      ∃ before h after, ops = before ++ .add "t" h :: after ∧
        (run true before).find? "t" = none ∧ s.Follows true (publishesTo "t" after) := by
  intro ops s
  have tracked : (run true ops).find? "t" = some s := rfl
  obtain ⟨before, h, after, hops, hnone, -, hfollows⟩ := tracked_follows true ops tracked
  exact ⟨tracked, before, h, after, hops, hnone, hfollows⟩

end Registry

end TopicClient
