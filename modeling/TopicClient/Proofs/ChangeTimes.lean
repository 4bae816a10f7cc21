import TopicClient.Proofs.Merges
import TopicClient.Proofs.TopicRuns

/-!
# Up to the times of changes

Nothing but the change that a leaf carries depends on the time of a merge, and no merge reads
that time back. So a registry without the times of its changes is published to as the registry
with them, at whatever moment.
-/

namespace TopicClient

def Stamp.untimed (s : Stamp) : Stamp := { s with now := 0 }

namespace Node

theorem untimedFields_eq_map (fs : List (String × Node)) :
    untimedFields fs = fs.map fun e => (e.1, e.2.untimed) := by
  induction fs with
  | nil => rfl
  | cons e fs ih =>
    rw [untimedFields, ih]
    rfl

theorem kind_untimed (n : Node) : n.untimed.kind = n.kind := by
  cases n <;> rfl

theorem fields_untimed (n : Node) : n.untimed.fields = untimedFields n.fields := by
  cases n <;> rfl

theorem isObject_untimed (n : Node) : n.untimed.isObject = n.isObject := by
  cases n <;> rfl

theorem base_untimed (old : Option Node) : base (old.map untimed) = (base old).untimed := by
  cases old <;> rfl

theorem find?_untimedFields (key : String) (fs : List (String × Node)) :
    Assoc.find? key (untimedFields fs) = (Assoc.find? key fs).map untimed := by
  rw [untimedFields_eq_map, Assoc.find?_map]

theorem untimedFields_setField (key : String) (fs : List (String × Node)) (n : Option Node) :
    untimedFields (setField key fs n) = setField key (untimedFields fs) (n.map untimed) := by
  rw [untimedFields_eq_map, untimedFields_eq_map]
  cases n with
  | none => exact Assoc.erase_map untimed key fs
  | some n => exact Assoc.put_map untimed key n fs

mutual

theorem toJson_untimed (n : Node) : n.untimed.toJson = n.toJson := by
  match n with
  | .leaf v c => rfl
  | .object kind fs => exact congrArg Json.object (toMembers_untimed fs)
termination_by structural n

theorem toMembers_untimed (fs : List (String × Node)) :
    toMembers (untimedFields fs) = toMembers fs := by
  match fs with
  | [] => rfl
  | (key, n) :: fs =>
    rw [untimedFields, toMembers, toMembers, toJson_untimed n, toMembers_untimed fs]
termination_by structural fs

end

mutual

/-- A whole value carries no change. -/
theorem untimed_ofJson (v : Json) : (ofJson v).untimed = ofJson v := by
  match v with
  | .obj ms => exact congrArg (object _) (untimedFields_ofMembers ms)
  | .null | .bool b | .num n | .str t | .arr xs => rfl
termination_by structural v

theorem untimedFields_ofMembers (ms : List (String × Json)) :
    untimedFields (ofMembers ms) = ofMembers ms := by
  match ms with
  | [] => rfl
  | (key, v) :: ms =>
    rw [ofMembers, untimedFields, untimed_ofJson v, untimedFields_ofMembers ms]
termination_by structural ms

end

theorem untimed_overwrite (s : Stamp) (v : Json) (old : Option Node) :
    (s.overwrite v old).untimed = s.untimed.overwrite v (old.map untimed) := by
  match old with
  | none => rfl
  | some (.leaf w c) =>
    by_cases hsame : w.same v = true
    · simp [Stamp.overwrite, untimed, hsame]
    · by_cases htrack : s.track = true
      · simp [Stamp.overwrite, Stamp.change?, Stamp.untimed, untimed, hsame, htrack]
      · simp [Stamp.overwrite, Stamp.untimed, untimed, hsame, htrack]
  | some (.object kind fs) =>
    have hvalue : (object kind (untimedFields fs)).toJson = (object kind fs).toJson :=
      toJson_untimed (object kind fs)
    by_cases htrack : s.track = true
    · simp [Stamp.overwrite, Stamp.change?, Stamp.untimed, untimed, hvalue, htrack]
    · simp [Stamp.overwrite, Stamp.change?, Stamp.untimed, untimed, htrack]

mutual

theorem untimed_merge (s : Stamp) (old : Option Node) (d : Json) :
    (merge s old d).map untimed = merge s.untimed (old.map untimed) d := by
  match d with
  | .null => rfl
  | .obj ms =>
    rw [merge, merge, Option.map_some, untimed, base_untimed, kind_untimed, fields_untimed,
      untimedFields_mergeFields]
  | .bool _ | .num _ | .str _ | .arr _ => exact congrArg some (untimed_overwrite s _ old)
termination_by structural d

theorem untimedFields_mergeFields (s : Stamp) (fs : List (String × Node))
    (ms : List (String × Json)) :
    untimedFields (mergeFields s fs ms) = mergeFields s.untimed (untimedFields fs) ms := by
  match ms with
  | [] => rfl
  | (key, d) :: ms =>
    rw [mergeFields, mergeFields, untimedFields_mergeFields s _ ms, untimedFields_setField,
      untimed_merge s _ d, find?_untimedFields]
termination_by structural ms

end

end Node

namespace Parents

mutual

/-- The index follows the containers alone. -/
theorem merge_untimed (kind : NodeKind) (container : Path) (key : String) (old : Option Node)
    (ps : Parents) (d : Json) :
    merge kind container key (old.map Node.untimed) ps d = merge kind container key old ps d := by
  match d with
  | .null => rw [merge, merge, Option.isSome_map]
  | .obj ms =>
    have hbase : (old.map Node.untimed).getD Node.empty = (old.getD Node.empty).untimed :=
      Node.base_untimed old
    rw [merge, merge, hbase, Node.kind_untimed, Node.fields_untimed,
      mergeMembers_untimed _ _ _ _ ms]
  | .bool _ | .num _ | .str _ | .arr _ =>
    cases old with
    | none => rfl
    | some n => simp only [merge, Option.map_some, Node.isObject_untimed]
termination_by structural d

theorem mergeMembers_untimed (kind : NodeKind) (path : Path) (fs : List (String × Node))
    (ps : Parents) (ms : List (String × Json)) :
    mergeMembers kind path (Node.untimedFields fs) ps ms = mergeMembers kind path fs ps ms := by
  match ms with
  | [] => rfl
  | (key, d) :: ms =>
    rw [mergeMembers, mergeMembers, Node.find?_untimedFields, merge_untimed _ _ _ _ _ d,
      mergeMembers_untimed _ _ _ _ ms]
termination_by structural ms

end

end Parents

namespace Snapshot

theorem untimed_ofJson (track : Bool) (v : Json) :
    (ofJson track v).untimed = ofJson track v := by
  rw [untimed, ofJson, Node.untimed_ofJson]

theorem untimed_merge (now : Int) (d : Json) (s : Snapshot) :
    (s.merge now d).untimed = s.untimed.merge 0 d := by
  cases d with
  | obj ms =>
    rw [merge_obj, merge_obj]
    simp only [untimed, Node.untimed, Node.untimedFields_mergeFields, Node.kind_untimed,
      Node.fields_untimed, Node.isObject_untimed, Parents.mergeMembers_untimed, Stamp.untimed]
  | _ => rfl

end Snapshot

/-! ## Publishes -/

variable {H : Type}

def Subscription.untimed (s : Subscription H) : Subscription H :=
  { s with snapshot := s.snapshot.map Snapshot.untimed }

def TopicEvent.untimed : TopicEvent → TopicEvent
  | state topic ts mode snapshot diff => state topic ts mode (snapshot.map Snapshot.untimed) diff
  | notification topic ts mode body => notification topic ts mode body
  | closed topic ts => closed topic ts

def Outcome.untimed : Outcome H → Outcome H
  | delivered d => delivered { d with event := d.event.untimed }
  | topicNotFound => topicNotFound
  | unknownUpdate code => unknownUpdate code

namespace Registry

def untimed (r : Registry H) : Registry H :=
  { r with topics := r.topics.map fun e => (e.1, e.2.untimed) }

theorem find?_untimed (topic : String) (r : Registry H) :
    r.untimed.find? topic = (r.find? topic).map Subscription.untimed :=
  Assoc.find?_map _ topic r.topics

theorem subscribeMessage_untimed (r : Registry H) :
    r.untimed.subscribeMessage = r.subscribeMessage := by
  simp [subscribeMessage, cursors, untimed, Subscription.untimed, Function.comp_def]

theorem untimed_merged (now : Int) (track : Bool) (body : Option Json) (old : Option Snapshot) :
    (merged now track body old).untimed = merged 0 track body (old.map Snapshot.untimed) := by
  have hbase : (old.map Snapshot.untimed).getD (.empty track) =
      (old.getD (.empty track)).untimed := by
    cases old <;> rfl
  cases body with
  | none => exact hbase.symm
  | some d =>
    simp only [merged, hbase]
    exact Snapshot.untimed_merge now d _

end Registry

theorem Subscription.untimed_published? (now : Int) (track : Bool) (m : Message)
    (s : Subscription H) :
    (s.published? now track m).map untimed = s.untimed.published? 0 track m := by
  simp only [published?]
  cases m.update.getD .diff with
  | full =>
    exact congrArg (fun new => some { s with ts := m.ts.getD s.ts, snapshot := some new })
      (Snapshot.untimed_ofJson track (m.body.getD .null))
  | diff =>
    exact congrArg (fun new => some { s with ts := m.ts.getD s.ts, snapshot := some new })
      (Registry.untimed_merged now track m.body s.snapshot)
  | _ => rfl

namespace Registry

theorem untimed_settle (topic : String) (left : Option (Subscription H)) (r : Registry H) :
    (r.settle topic left).untimed = r.untimed.settle topic (left.map Subscription.untimed) := by
  simp only [settle, untimed, Assoc.map_settle]

theorem untimed_registry_publish (now : Int) (m : Message) (r : Registry H) :
    (r.publish now m).registry.untimed = (r.untimed.publish 0 m).registry := by
  rw [registry_publish, registry_publish, untimed_settle, find?_untimed, Option.map_bind,
    Option.bind_map]
  simp only [Function.comp_def, Subscription.untimed_published?]
  rfl

/-- The times of changes apart, a publish tells the same at any time. -/
theorem untimed_outcome_publish (now : Int) (m : Message) (r : Registry H) :
    (r.publish now m).outcome.untimed = (r.untimed.publish 0 m).outcome := by
  rw [publish, publish, find?_untimed]
  cases r.find? m.topic with
  | none => rfl
  | some s =>
    simp only [Option.map_some]
    cases m.update.getD .diff with
    | full =>
      have hnew := Snapshot.untimed_ofJson r.track (m.body.getD .null)
      exact congrArg (fun new => Outcome.delivered
        ⟨s.handlers, .state m.topic (m.ts.getD s.ts) (some .full) (some new) none⟩) hnew
    | diff =>
      have hnew := untimed_merged now r.track m.body s.snapshot
      exact congrArg (fun new => Outcome.delivered
        ⟨s.handlers, .state m.topic (m.ts.getD s.ts) (some .diff) (some new) m.body⟩) hnew
    | _ => rfl

end Registry

end TopicClient
