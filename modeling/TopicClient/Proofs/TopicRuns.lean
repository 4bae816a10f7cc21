import Mathlib.Data.List.Induction
import TopicClient.Registry
import TopicClient.Proofs.Entries

/-!
# Runs of a registry

A registry is changed by its handlers coming and going and by publishes. What each
operation makes of a topic depends on the subscription of that topic alone, and no
topic is ever listed twice.
-/

namespace TopicClient

/-- The subscription after a publish, if it lives on. -/
def Subscription.published? {H : Type} (now : Int) (track : Bool) (m : Message)
    (s : Subscription H) : Option (Subscription H) :=
  let moved := { s with ts := m.ts.getD s.ts }
  match m.update.getD .diff with
  | .close => none
  | .full => some { moved with snapshot := some (.ofJson track (m.body.getD .null)) }
  | .diff => some { moved with snapshot := some (Registry.merged now track m.body s.snapshot) }
  | _ => some moved

/-- The subscription after a handler has left, unless it was the last one. -/
def Subscription.left? {H : Type} (id : HandlerId) (s : Subscription H) :
    Option (Subscription H) :=
  let left := s.handlers.filter (·.1 ≠ id)
  if s.handlers.any (·.1 = id) then
    if left.isEmpty then none else some { s with handlers := left }
  else some s

namespace Registry
variable {H : Type}

inductive Op (H : Type) where
  | add (topic : String) (handler : H)
  | remove (topic : String) (id : HandlerId)
  | publish (now : Int) (m : Message)

namespace Op

def topic : Op H → String
  | .add topic _ => topic
  | .remove topic _ => topic
  | .publish _ m => m.topic

def apply : Op H → Registry H → Registry H
  | .add topic h, r => (r.add topic h).registry
  | .remove topic id, r => (r.remove topic id).registry
  | .publish now m, r => (r.publish now m).registry

/-- What the operation makes of its topic. -/
def after? (r : Registry H) : Op H → Option (Subscription H)
  | .add topic h =>
    let joining := (r.lastHandler + 1, h)
    some (match r.find? topic with
      | none => { handlers := [joining] }
      | some s => { s with handlers := s.handlers ++ [joining] })
  | .remove topic id => (r.find? topic).bind (Subscription.left? id)
  | .publish now m => (r.find? m.topic).bind (Subscription.published? now r.track m)

end Op

/-- What the operations make of a registry that tracks no topic yet. -/
def run (track : Bool) (ops : List (Op H)) : Registry H :=
  ops.foldl (fun r op => op.apply r) { track := track }

theorem run_snoc (track : Bool) (ops : List (Op H)) (op : Op H) :
    run track (ops ++ [op]) = op.apply (run track ops) := by
  simp [run]

/-- An operation leaves the topics alone, drops its own, or writes its own. -/
theorem topics_apply (op : Op H) (r : Registry H) :
    ((op.apply r).topics = r.topics ∧ op.after? r = r.find? op.topic) ∨
    (op.after? r = none ∧ (op.apply r).topics = Assoc.erase op.topic r.topics) ∨
    ∃ s, op.after? r = some s ∧ (op.apply r).topics = Assoc.put op.topic s r.topics := by
  cases op with
  | add topic h =>
    simp only [Op.apply, Op.after?, add]
    cases r.find? topic with
    | none => exact .inr (.inr ⟨_, rfl, rfl⟩)
    | some s => exact .inr (.inr ⟨_, rfl, rfl⟩)
  | remove topic id =>
    simp only [Op.apply, Op.after?, remove]
    cases hfound : r.find? topic with
    | none => exact .inl ⟨rfl, hfound.symm⟩
    | some s =>
      simp only [Option.bind_some, Subscription.left?]
      by_cases hany : s.handlers.any (·.1 = id) = true
      · by_cases hleft : (s.handlers.filter (·.1 ≠ id)).isEmpty = true
        · simp only [if_pos hany, if_pos hleft]
          exact .inr (.inl ⟨trivial, rfl⟩)
        · simp only [if_pos hany, if_neg hleft]
          exact .inr (.inr ⟨_, rfl, rfl⟩)
      · simp only [if_neg hany]
        exact .inl ⟨trivial, hfound.symm⟩
  | publish now m =>
    simp only [Op.apply, Op.after?, publish]
    cases hfound : r.find? m.topic with
    | none => exact .inl ⟨rfl, hfound.symm⟩
    | some s =>
      simp only [Option.bind_some, Subscription.published?]
      cases m.update.getD .diff with
      | close => exact .inr (.inl ⟨rfl, rfl⟩)
      | _ => exact .inr (.inr ⟨_, rfl, rfl⟩)

theorem find?_apply_self (op : Op H) {r : Registry H} (hr : Assoc.Distinct r.topics) :
    (op.apply r).find? op.topic = op.after? r := by
  rw [find?]
  rcases topics_apply op r with ⟨htopics, hafter⟩ | ⟨hafter, htopics⟩ | ⟨s, hafter, htopics⟩
  · rw [htopics, hafter]
    rfl
  · rw [htopics, hafter]
    exact Assoc.find?_erase_self hr
  · rw [htopics, hafter]
    exact Assoc.find?_put_self _ _ _

/-- Other topics are no concern of an operation. -/
theorem find?_apply_of_ne {op : Op H} {other : String} (hne : other ≠ op.topic)
    (r : Registry H) : (op.apply r).find? other = r.find? other := by
  simp only [find?]
  rcases topics_apply op r with ⟨htopics, -⟩ | ⟨-, htopics⟩ | ⟨s, -, htopics⟩
  · rw [htopics]
  · rw [htopics]
    exact Assoc.find?_erase_of_ne hne _
  · rw [htopics]
    exact Assoc.find?_put_of_ne hne _ _

theorem distinct_apply (op : Op H) {r : Registry H} (hr : Assoc.Distinct r.topics) :
    Assoc.Distinct (op.apply r).topics := by
  rcases topics_apply op r with ⟨htopics, -⟩ | ⟨-, htopics⟩ | ⟨s, -, htopics⟩
  · rwa [htopics]
  · rw [htopics]
    exact Assoc.distinct_erase hr
  · rw [htopics]
    exact Assoc.distinct_put hr

theorem track_apply (op : Op H) (r : Registry H) : (op.apply r).track = r.track := by
  cases op with
  | add topic h =>
    simp only [Op.apply, add]
    cases r.find? topic <;> rfl
  | remove topic id =>
    simp only [Op.apply, remove]
    cases r.find? topic with
    | none => rfl
    | some s => dsimp only; split_ifs <;> rfl
  | publish now m =>
    simp only [Op.apply, publish]
    cases r.find? m.topic with
    | none => rfl
    | some s => cases m.update.getD .diff <;> rfl

/-- The registry with what has become of the subscription to one topic. -/
def settle (topic : String) (left : Option (Subscription H)) (r : Registry H) : Registry H :=
  { r with topics := Assoc.settle topic left r.topics }

theorem registry_publish (now : Int) (m : Message) (r : Registry H) :
    (r.publish now m).registry =
      r.settle m.topic ((r.find? m.topic).bind (Subscription.published? now r.track m)) := by
  rw [publish]
  cases hfound : r.find? m.topic with
  | none =>
    have habsent : m.topic ∉ Assoc.keys r.topics := Assoc.find?_eq_none_iff.mp hfound
    simp [settle, Assoc.settle, Assoc.erase_of_not_mem habsent]
  | some s =>
    simp only [Option.bind_some, Subscription.published?]
    cases m.update.getD .diff <;> rfl

theorem registry_remove (topic : String) (id : HandlerId) (r : Registry H) :
    (r.remove topic id).registry =
      r.settle topic ((r.find? topic).bind (Subscription.left? id)) := by
  rw [remove]
  cases hfound : r.find? topic with
  | none =>
    have habsent : topic ∉ Assoc.keys r.topics := Assoc.find?_eq_none_iff.mp hfound
    simp [settle, Assoc.settle, Assoc.erase_of_not_mem habsent]
  | some s =>
    simp only [Option.bind_some, Subscription.left?]
    by_cases hany : s.handlers.any (·.1 = id) = true
    · by_cases hleft : (s.handlers.filter (·.1 ≠ id)).isEmpty = true
      · simp only [if_pos hany, if_pos hleft]
        rfl
      · simp only [if_pos hany, if_neg hleft]
        rfl
    · simp only [if_neg hany]
      rw [settle, Assoc.settle, Assoc.put_of_find? hfound]

/-- A topic is listed once, and changes are tracked or not for good. -/
theorem run_keeps (track : Bool) (ops : List (Op H)) :
    Assoc.Distinct (run track ops).topics ∧ (run track ops).track = track := by
  induction ops using List.reverseRecOn with
  | nil => exact ⟨List.nodup_nil, rfl⟩
  | append_singleton ops op ih =>
    rw [run_snoc]
    exact ⟨distinct_apply op ih.1, (track_apply op _).trans ih.2⟩

end Registry

end TopicClient
