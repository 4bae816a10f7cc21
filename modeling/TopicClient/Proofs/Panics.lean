import TopicClient.Proofs.Histories
import TopicClient.Scenario.Listener

/-!
# Handlers that panic

A panic costs the handler its own call and nothing else. Beside the run in which handlers
panic stands the run in which they do the same and return: both go through the same
happenings, so they differ in nothing but the records.
-/

namespace TopicClient

/-- The handlers do the same, but none of them panics. -/
def Behaviour.calm {H W : Type} (b : Behaviour H W) : Behaviour H W :=
  fun id h event c => (none, (b id h event c).2)

namespace Core
variable {H W : Type} (b : Behaviour H W) (now : Nat)

/-! ## The same happenings -/

theorem happen_calm : happen b.calm now = happen b now := by
  funext c x
  cases x <;> rfl

theorem history_calm (ms : List Message) (c : Core H W) :
    c.history b.calm now ms = c.history b now ms := by
  induction ms generalizing c with
  | nil => rfl
  | cons m ms ih => rw [history, history, happen_calm, ih]

theorem stages_calm (hs : List (Happening H)) (c : Core H W) :
    stages b.calm now hs c = stages b now hs c := by
  induction hs generalizing c with
  | nil => rfl
  | cons x hs ih => rw [stages, stages, happen_calm, ih]

theorem endings_calm (hs : List (Happening H)) (c : Core H W) :
    endings b.calm now hs c = (endings b now hs c).map fun e => (e.1, e.2.1, none) := by
  rw [endings, endings, stages_calm, List.map_filterMap]
  refine List.filterMap_congr fun e _ => ?_
  obtain ⟨c, x⟩ := e
  cases x <;> rfl

/-! ## Records -/

/-- What is recorded says that it was a panic, on which topic, and what the handler said. -/
theorem members_record (topic : String) (p : Panic) :
    (p.record topic).members =
      [("message", .str p.message), ("name", .str "handlerPanic"), ("topic", .str topic)] := by
  have htopic : ¬ "topic" < "name" := by decide
  have hmessage : "message" < "name" := by decide
  simp [Panic.record, Json.object, Json.members, Assoc.ofListSorted, Assoc.insert, htopic, hmessage,
    -String.reduceLT]

/-- Two runs through the same happenings end alike. Where nobody panics, nothing is
recorded. -/
theorem runs_calm {i j k : Inbound H W} {hs : List (Happening H)}
    (hj : i.Runs b now hs j) (hk : i.Runs b.calm now hs k) :
    k.core = j.core ∧ k.calls = j.calls ∧ k.answered = j.answered ∧ k.pong = j.pong ∧
      k.records = i.records := by
  have hnone : ((endings b now hs i.core).map
      fun e => (e.1, e.2.1, (none : Option Panic))).filterMap
        (fun e => e.2.2.map fun p => p.record e.2.1.topic) = [] := by
    simp [List.filterMap_map]
  refine ⟨?_, hk.calls.trans hj.calls.symm, ?_, hk.pong.trans hj.pong.symm, ?_⟩
  · rw [hk.core, hj.core, happen_calm]
  · rw [hk.answered, hj.answered, stages_calm]
  · rw [hk.records, endings_calm, hnone, List.append_nil]

/-- Panics of handlers are contained. If they returned instead, a payload would leave the
same core, call the same handlers on the same events, answer the same requests and yield the
same result, without any record. As it is there is a record for every call that ended in a
panic, in the order of the calls, with the topic of the event. And a delivery counts those of
its calls that ended well, after it has called every handler. -/
theorem panics_contained (b : Behaviour H W) (now : Nat) (c : Core H W) :
    (∀ text,
      let i := c.onPayload b now text
      let j := c.onPayload b.calm now text
      let ends := endings b now (c.history b now (Wire.unpack c.version text).result) c
      (j.core = i.core ∧ j.calls = i.calls ∧ j.answered = i.answered ∧ j.pong = i.pong ∧
        j.records = []) ∧
      ends.map (fun e => (e.1, e.2.1)) = i.calls ∧
      i.records = ends.filterMap fun e => e.2.2.map fun p => p.record e.2.1.topic) ∧
    (∀ topic (p : Panic), (p.record topic).members =
      [("message", .str p.message), ("name", .str "handlerPanic"), ("topic", .str topic)]) ∧
    ∀ (d : Delivery H) (i : Inbound H W),
      let ends := endings b now (Happening.ofDelivery d) i.core
      (d.dispatch (Inbound.call b) Inbound.report i).1 = ends.countP (·.2.2.isNone) ∧
        ends.map (fun e => (e.1, e.2.1)) = d.calls := by
  refine ⟨?_, members_record, ?_⟩
  · intro text i j ends
    have hi := runs_onPayload b now text c
    have hj := runs_onPayload b.calm now text c
    rw [history_calm] at hj
    refine ⟨runs_calm b now hi hj, ?_, ?_⟩
    · rw [hi.calls, List.nil_append]
      exact calls_endings b now _ c
    · rw [hi.records, List.nil_append]
  · intro d i ends
    refine ⟨Inbound.completed_dispatch d i, ?_⟩
    rw [← call?_ofDelivery]
    exact calls_endings b now _ i.core

/-- The handlers after the one that panics are called, and so are those of the next message. -/
example :
    let bad : Scenario.Listener :=
      { name := "bad", topic := "t", reaction := some (.panic (.text "boom")) }
    let t := (({} : Registry Scenario.Listener).add "t" bad).registry
    let tu := ((t.add "t" { name := "x", topic := "t" }).registry.add "u"
      { name := "y", topic := "u" }).registry
    let c : Core Scenario.Listener Scenario.Journal :=
      { version := .v2, surroundings := {}, registry := tu }
    let i := c.onPayload Scenario.listen 0
      (Wire.packBatch .v2 [.publish "t" 1 .close none, .publish "u" 1 .full none])
    i.calls.map (·.1) = [1, 2, 3] ∧ i.records.length = 1 ∧ i.core.registry.names = ["u"] := by
  decide +kernel

end Core

end TopicClient
