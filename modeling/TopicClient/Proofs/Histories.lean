import TopicClient.Proofs.Receptions
import TopicClient.Client.Core

/-!
# What a payload sets off

Every message of a payload sets off what its kind asks for, and a publish the calls of the
handlers that it is delivered to. Put one after the other, these happenings say all that
comes of the payload: the core that it leaves, who was called, what was recorded, which
requests got their answers, and whether there was a pong.
-/

namespace TopicClient

/-- Something that happens to a core while it takes a payload. -/
inductive Happening (H : Type) where
  | published (m : Message)
  | responded (m : Message)
  | pinged
  | ponged
  | called (id : HandlerId) (h : H) (event : TopicEvent)

namespace Happening
variable {H : Type}

/-- What a message does by itself, before any handler. -/
def ofMessage? (m : Message) : Option (Happening H) :=
  match m.kind with
  | .publish => some (published m)
  | .response => some (responded m)
  | .ping => some pinged
  | .pong => some ponged
  | _ => none

/-- The call, if it is one. -/
def call? : Happening H → Option (HandlerId × TopicEvent)
  | called id _ event => some (id, event)
  | _ => none

/-- The response, if it is one. -/
def response? : Happening H → Option Message
  | responded m => some m
  | _ => none

def isPong : Happening H → Bool
  | ponged => true
  | _ => false

/-- The calls that a delivery asks for. -/
def ofDelivery (d : Delivery H) : List (Happening H) :=
  d.handlers.map fun e => called e.1 e.2 d.event

end Happening

namespace Core
variable {H W : Type}

/-- What a happening makes of the core. A publish goes to the registry, a response to the
correlator, and a ping is answered through the outbox; what a call does is up to the
handler. -/
def happen (b : Behaviour H W) (now : Nat) (c : Core H W) : Happening H → Core H W
  | .published m => { c with registry := (c.registry.publish now m).registry }
  | .responded m => { c with correlator := (c.correlator.resolve m).2 }
  | .pinged => { c with outbox := c.outbox ++ [.pong] }
  | .ponged => c
  | .called id h event => (b id h event c).2

/-- What a message sets off in a core: what it does by itself, and then the calls of the
handlers that are told. -/
def reactions (now : Nat) (c : Core H W) (m : Message) : List (Happening H) :=
  match m.kind with
  | .publish =>
    .published m ::
      ((Registry.Op.publish now m).delivery? c.registry).elim [] Happening.ofDelivery
  | _ => (Happening.ofMessage? m).toList

/-- What messages set off, one after the other. -/
def history (b : Behaviour H W) (now : Nat) (c : Core H W) : List Message → List (Happening H)
  | [] => []
  | m :: ms =>
    c.reactions now m ++ history b now ((c.reactions now m).foldl (happen b now) c) ms

/-- The happenings, each with the core that it finds. -/
def stages (b : Behaviour H W) (now : Nat) :
    List (Happening H) → Core H W → List (Core H W × Happening H)
  | [], _ => []
  | x :: hs, c => (c, x) :: stages b now hs (c.happen b now x)

/-- How a call ends in the core that it finds. -/
def ending? (b : Behaviour H W) :
    Core H W × Happening H → Option (HandlerId × TopicEvent × Option Panic)
  | (c, .called id h event) => some (id, event, (b id h event c).1)
  | _ => none

/-- The calls among the happenings and how they end. -/
def endings (b : Behaviour H W) (now : Nat) (hs : List (Happening H)) (c : Core H W) :
    List (HandlerId × TopicEvent × Option Panic) :=
  (stages b now hs c).filterMap (ending? b)

/-- The request that gets its answer, if it is pending. -/
def answered : Core H W × Happening H → List UInt64
  | (c, .responded m) => if (c.correlator.resolve m).1 then m.id.toList else []
  | _ => []

section Laws
variable (b : Behaviour H W) (now : Nat)

theorem stages_append (hs more : List (Happening H)) (c : Core H W) :
    stages b now (hs ++ more) c =
      stages b now hs c ++ stages b now more (hs.foldl (happen b now) c) := by
  induction hs generalizing c with
  | nil => rfl
  | cons x hs ih => simp only [List.cons_append, stages, List.foldl_cons, ih]

theorem endings_append (hs more : List (Happening H)) (c : Core H W) :
    endings b now (hs ++ more) c =
      endings b now hs c ++ endings b now more (hs.foldl (happen b now) c) := by
  simp only [endings, stages_append, List.filterMap_append]

/-- Every call ends, in the order in which they are made. -/
theorem calls_endings (hs : List (Happening H)) (c : Core H W) :
    (endings b now hs c).map (fun e => (e.1, e.2.1)) = hs.filterMap Happening.call? := by
  induction hs generalizing c with
  | nil => rfl
  | cons x hs ih =>
    rw [endings, stages]
    cases x with
    | called id h event => exact congrArg ((id, event) :: ·) (ih _)
    | _ => exact ih _

theorem call?_ofDelivery (d : Delivery H) :
    (Happening.ofDelivery d).filterMap Happening.call? = d.calls := by
  simp [Happening.ofDelivery, Delivery.calls, Happening.call?, Function.comp_def]

/-- Apart from calls, a message sets off what it does by itself. -/
theorem own_reactions (c : Core H W) (m : Message) :
    (c.reactions now m).filter (·.call?.isNone) = (Happening.ofMessage? m).toList := by
  have hcalls (d : Delivery H) : (Happening.ofDelivery d).filter (·.call?.isNone) = [] := by
    refine List.filter_eq_nil_iff.mpr ?_
    intro x hx
    obtain ⟨e, -, rfl⟩ := List.mem_map.mp hx
    simp [Happening.call?]
  rw [reactions, Happening.ofMessage?]
  cases m.kind with
  | publish =>
    cases (Registry.Op.publish now m).delivery? c.registry with
    | none => rfl
    | some d => exact congrArg (Happening.published m :: ·) (hcalls d)
  | _ => rfl

theorem own_history (ms : List Message) (c : Core H W) :
    (c.history b now ms).filter (·.call?.isNone) = ms.filterMap Happening.ofMessage? := by
  induction ms generalizing c with
  | nil => rfl
  | cons m ms ih =>
    rw [history, List.filter_append, own_reactions, ih]
    cases hm : Happening.ofMessage? (H := H) m <;> simp [hm]

end Laws

end Core

namespace Inbound
variable {H W : Type}

/-- From `i` to `j` these happenings take place, and nothing else does. -/
structure Runs (b : Behaviour H W) (now : Nat) (i : Inbound H W) (hs : List (Happening H))
    (j : Inbound H W) : Prop where
  core : j.core = hs.foldl (Core.happen b now) i.core
  calls : j.calls = i.calls ++ hs.filterMap Happening.call?
  records : j.records = i.records ++ (Core.endings b now hs i.core).filterMap fun e =>
    e.2.2.map fun p => p.record e.2.1.topic
  answered : j.answered = i.answered ++ (Core.stages b now hs i.core).flatMap Core.answered
  pong : j.pong = (i.pong || hs.any Happening.isPong)

section Laws
variable {b : Behaviour H W} {now : Nat}

theorem Runs.refl (i : Inbound H W) : i.Runs b now [] i where
  core := rfl
  calls := (List.append_nil _).symm
  records := (List.append_nil _).symm
  answered := (List.append_nil _).symm
  pong := (Bool.or_false _).symm

theorem Runs.trans {i j k : Inbound H W} {hs more : List (Happening H)}
    (h : i.Runs b now hs j) (h' : j.Runs b now more k) : i.Runs b now (hs ++ more) k where
  core := by rw [List.foldl_append, ← h.core, h'.core]
  calls := by rw [List.filterMap_append, ← List.append_assoc, ← h.calls, h'.calls]
  records := by
    rw [Core.endings_append, List.filterMap_append, ← List.append_assoc, ← h.records, ← h.core,
      h'.records]
  answered := by
    rw [Core.stages_append, List.flatMap_append, ← List.append_assoc, ← h.answered, ← h.core,
      h'.answered]
  pong := by rw [List.any_append, ← Bool.or_assoc, ← h.pong, h'.pong]

/-- A happening that calls nobody and answers nobody shows in the core alone. -/
theorem Runs.silent {x : Happening H} (hcall : x.call? = none)
    (hanswered : ∀ c : Core H W, Core.answered (c, x) = []) (hpong : x.isPong = false)
    (i : Inbound H W) : i.Runs b now [x] { i with core := i.core.happen b now x } where
  core := rfl
  calls := by simp [hcall]
  records := by
    cases x with
    | called id h event => cases hcall
    | _ => exact (List.append_nil _).symm
  answered := by simp [Core.stages, hanswered]
  pong := by simp [hpong]

/-! ## Deliveries -/

/-- One call, and its report if it fails. -/
def ring (b : Behaviour H W) (event : TopicEvent) (i : Inbound H W) (e : HandlerId × H) :
    Inbound H W :=
  let (panic, j) := call b e.1 e.2 event i
  panic.elim j fun p => j.report event p

theorem runs_ring (event : TopicEvent) (i : Inbound H W) (e : HandlerId × H) :
    i.Runs b now [.called e.1 e.2 event] (i.ring b event e) := by
  simp only [ring, call]
  cases hpanic : (b e.1 e.2 event i.core).1 with
  | none =>
    refine ⟨rfl, rfl, ?_, (List.append_nil _).symm, (Bool.or_false _).symm⟩
    simp [Core.endings, Core.stages, Core.ending?, hpanic]
  | some panic =>
    refine ⟨rfl, rfl, ?_, (List.append_nil _).symm, (Bool.or_false _).symm⟩
    simp [Core.endings, Core.stages, Core.ending?, hpanic, report]

/-- Handlers are rung one after the other, and those are counted whose calls end well. -/
theorem callAll_eq (event : TopicEvent) (handlers : List (HandlerId × H)) (i : Inbound H W) :
    Delivery.callAll (call b) (report event) event handlers i =
      ((Core.endings b now (handlers.map fun e => .called e.1 e.2 event) i.core).countP
          fun e => e.2.2.isNone,
        handlers.foldl (ring b event) i) := by
  induction handlers generalizing i with
  | nil => rfl
  | cons e rest ih =>
    obtain ⟨id, h⟩ := e
    let called : Inbound H W :=
      { i with core := (b id h event i.core).2, calls := i.calls ++ [(id, event)] }
    have hcall : call b id h event i = ((b id h event i.core).1, called) := rfl
    have hends (hs : List (Happening H)) :
        Core.endings b now (.called id h event :: hs) i.core =
          (id, event, (b id h event i.core).1) :: Core.endings b now hs called.core := rfl
    rw [List.map_cons, hends, List.foldl_cons, Delivery.callAll, hcall, ring, hcall]
    cases (b id h event i.core).1 with
    | none =>
      simp only [Option.elim_none, ih called]
      rw [List.countP_cons_of_pos rfl]
    | some panic =>
      simp only [Option.elim_some, ih (called.report event panic)]
      rw [List.countP_cons_of_neg (Bool.false_ne_true)]
      rfl

/-- How many calls of a delivery end well. -/
theorem completed_dispatch (d : Delivery H) (i : Inbound H W) :
    (d.dispatch (call b) report i).1 =
      (Core.endings b now (Happening.ofDelivery d) i.core).countP fun e => e.2.2.isNone :=
  congrArg Prod.fst (callAll_eq d.event d.handlers i)

theorem runs_deliver (d : Delivery H) (i : Inbound H W) :
    i.Runs b now (Happening.ofDelivery d) (i.deliver b d) := by
  obtain ⟨handlers, event⟩ := d
  have hdeliver : i.deliver b ⟨handlers, event⟩ = handlers.foldl (ring b event) i :=
    congrArg Prod.snd (@callAll_eq H W b now event handlers i)
  rw [hdeliver, Happening.ofDelivery]
  clear hdeliver
  induction handlers generalizing i with
  | nil => exact .refl i
  | cons e rest ih => exact (runs_ring event i e).trans (ih _)

/-! ## Payloads -/

theorem runs_publish {m : Message} (hkind : m.kind = .publish) (i : Inbound H W) :
    i.Runs b now (i.core.reactions now m) (i.publish b now m) := by
  let published : Inbound H W := { i with core := i.core.happen b now (.published m) }
  have hpublish : i.Runs b now [.published m] published := .silent rfl (fun _ => rfl) rfl i
  simp only [Core.reactions, hkind, publish, Registry.Op.delivery?]
  cases (i.core.registry.publish now m).outcome with
  | delivered d => exact hpublish.trans (runs_deliver d published)
  | topicNotFound | unknownUpdate code => exact hpublish

theorem runs_respond (m : Message) (i : Inbound H W) :
    i.Runs b now [.responded m] (i.respond m) := by
  refine ⟨rfl, (List.append_nil _).symm, (List.append_nil _).symm, ?_, (Bool.or_false _).symm⟩
  simp only [respond, Core.stages, Core.answered, List.flatMap_cons, List.flatMap_nil,
    List.append_nil]
  split
  · rfl
  · exact (List.append_nil _).symm

theorem runs_accept (m : Message) (i : Inbound H W) :
    i.Runs b now (i.core.reactions now m) (i.accept b now m) := by
  rw [accept]
  cases hkind : m.kind with
  | publish => exact runs_publish hkind i
  | response =>
    simp only [Core.reactions, Happening.ofMessage?, hkind]
    exact runs_respond m i
  | ping =>
    simp only [Core.reactions, Happening.ofMessage?, hkind]
    exact .silent rfl (fun _ => rfl) rfl i
  | pong =>
    simp only [Core.reactions, Happening.ofMessage?, hkind]
    exact ⟨rfl, (List.append_nil _).symm, (List.append_nil _).symm, (List.append_nil _).symm,
      (Bool.or_true _).symm⟩
  | _ =>
    simp only [Core.reactions, Happening.ofMessage?, hkind]
    exact .refl i

/-- What comes of messages is what they set off. -/
theorem runs_fold (ms : List Message) (i : Inbound H W) :
    i.Runs b now (i.core.history b now ms) (ms.foldl (accept b now) i) := by
  induction ms generalizing i with
  | nil => exact .refl i
  | cons m ms ih =>
    have haccept : i.Runs b now (i.core.reactions now m) (i.accept b now m) := runs_accept m i
    have hrest := ih (i.accept b now m)
    rw [haccept.core] at hrest
    exact haccept.trans hrest

end Laws

end Inbound

/-- What comes of a payload is what its messages set off. -/
theorem Core.runs_onPayload {H W : Type} (b : Behaviour H W) (now : Nat) (text : String)
    (c : Core H W) :
    Inbound.Runs b now { core := c } (c.history b now (Wire.unpack c.version text).result)
      (c.onPayload b now text) :=
  Inbound.runs_fold _ { core := c }

end TopicClient
