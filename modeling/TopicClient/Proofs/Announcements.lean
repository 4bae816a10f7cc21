import TopicClient.Proofs.Histories
import TopicClient.Scenario.Listener

/-!
# Announcements

A handler reaches the core only through what every user of a client may do. Then
whatever happens to a core between two moments, the last subscribe message that it
leaves in the outbox lists every topic it tracks, and if it leaves none, no topic
has come.
-/

namespace TopicClient

namespace Message

/-- The topics that a message lists. -/
def listed (m : Message) : List String := (m.subscriptions.getD ⟨[]⟩).topics

/-- The topics that the last subscribe message lists, if there is one. -/
def announced (ms : List Message) : Option (List String) :=
  ((ms.filter fun m => m.kind = .subscribe).map listed).getLast?

theorem announced_append (ms more : List Message) :
    announced (ms ++ more) = (announced more).or (announced ms) := by
  simp [announced, List.getLast?_append]

theorem announced_cons (m : Message) (ms : List Message) :
    announced (m :: ms) = (announced ms).or (announced [m]) :=
  announced_append [m] ms

theorem announced_subscribe {m : Message} (h : m.kind = .subscribe) :
    announced [m] = some m.listed := by
  simp [announced, h]

theorem announced_other {m : Message} (h : m.kind ≠ .subscribe) : announced [m] = none := by
  simp [announced, h]

end Message

open Message

namespace Registry
variable {H : Type}

theorem mem_names {topic : String} {r : Registry H} {s : Subscription H}
    (h : r.find? topic = some s) : topic ∈ Assoc.keys r.topics :=
  Assoc.find?_isSome_iff.mp (Option.isSome_of_eq_some h)

theorem listed_subscribeMessage (r : Registry H) : r.subscribeMessage.listed = r.names := by
  simp [listed, subscribeMessage, Message.subscribe, Cursors.topics, cursors, names, Assoc.keys]

theorem announced_subscribeMessage (r : Registry H) :
    announced [r.subscribeMessage] = some r.names := by
  rw [announced_subscribe rfl, listed_subscribeMessage]

/-- A handler that comes either brings no topic or has all topics announced. -/
theorem names_add (topic : String) (h : H) (r : Registry H) :
    ((r.add topic h).announcement = none ∧ (r.add topic h).registry.names = r.names) ∨
      (r.add topic h).announcement = some (r.add topic h).registry.subscribeMessage := by
  rw [add]
  cases hfound : r.find? topic with
  | none => exact .inr rfl
  | some s =>
    refine .inl ⟨rfl, ?_⟩
    simp [names, Assoc.keys_put, mem_names hfound]

/-- No topic comes with a handler that goes, and if one goes, the others are announced. -/
theorem names_remove (topic : String) (id : HandlerId) (r : Registry H) :
    ((r.remove topic id).announcement = none ∧ (r.remove topic id).registry.names = r.names) ∨
      (r.remove topic id).announcement = some (r.remove topic id).registry.subscribeMessage := by
  rw [remove]
  cases hfound : r.find? topic with
  | none => exact .inl ⟨rfl, rfl⟩
  | some s =>
    by_cases hany : s.handlers.any (·.1 = id) = true
    · by_cases hleft : (s.handlers.filter (·.1 ≠ id)).isEmpty = true
      · simp only [if_pos hany, if_pos hleft]
        exact .inr trivial
      · simp only [if_pos hany, if_neg hleft]
        refine .inl ⟨trivial, ?_⟩
        simp [names, Assoc.keys_put, mem_names hfound]
    · simp only [if_neg hany]
      exact .inl ⟨trivial, trivial⟩

/-- A publish brings no topic. -/
theorem names_publish (now : Int) (m : Message) (r : Registry H) :
    ∀ topic ∈ (r.publish now m).registry.names, topic ∈ r.names := by
  rw [publish]
  cases hfound : r.find? m.topic with
  | none => exact fun topic hmem => hmem
  | some s =>
    have hset : ∀ s' : Subscription H, ∀ topic ∈ (r.set m.topic s').names, topic ∈ r.names := by
      intro s'
      simp [names, set, Assoc.keys_put, mem_names hfound]
    cases m.update.getD .diff with
    | close => exact fun topic hmem => (Assoc.keys_erase_sublist _ _).subset hmem
    | _ => exact hset _

end Registry

namespace Core
variable {H W : Type}

/-- What a user of a client may do to its core. -/
inductive Act : Core H W → Core H W → Prop
  | own (c : Core H W) (surroundings : W) (correlator : Correlator) :
      Act c { c with surroundings, correlator }
  | subscribe (c : Core H W) (topic : String) (h : H) :
      Act c
        { c with
          registry := (c.registry.add topic h).registry
          outbox := c.outbox ++ (c.registry.add topic h).announcement.toList }
  | unsubscribe (c : Core H W) (topic : String) (id : HandlerId) :
      Act c (c.unsubscribe topic id).2
  | close (c : Core H W) : Act c c.close

/-- What happens to a core beside its outbox being emptied. -/
inductive Move : Core H W → Core H W → Prop
  | act {c d : Core H W} (h : Act c d) : Move c d
  | publish (c : Core H W) (now : Int) (m : Message) :
      Move c { c with registry := (c.registry.publish now m).registry }
  | pong (c : Core H W) : Move c { c with outbox := c.outbox ++ [.pong] }

abbrev Moves : Core H W → Core H W → Prop := Relation.ReflTransGen Move

/-- Every tracked topic is listed by the last announcement that has not gone out yet
or, if there is none, is carried. -/
def Owes (carried : String → Prop) (c : Core H W) : Prop :=
  ∀ topic ∈ c.registry.names,
    (announced c.outbox).elim (carried topic) fun names => topic ∈ names

theorem Owes.mono {p q : String → Prop} {c : Core H W} (h : c.Owes p)
    (hpq : ∀ topic ∈ c.registry.names, p topic → q topic) : c.Owes q := by
  intro topic hmem
  have howes := h topic hmem
  cases hann : announced c.outbox with
  | none =>
    rw [hann] at howes
    exact hpq topic hmem howes
  | some names =>
    rw [hann] at howes
    exact howes

/-- Nothing is owed once all topics have been announced. -/
theorem owes_of_announced {p : String → Prop} {c : Core H W}
    (h : announced c.outbox = some c.registry.names) : c.Owes p := by
  intro topic hmem
  rw [h]
  exact hmem

theorem Owes.quiet {p : String → Prop} {c d : Core H W} (h : c.Owes p)
    (hnames : ∀ topic ∈ d.registry.names, topic ∈ c.registry.names)
    (hann : announced d.outbox = announced c.outbox) : d.Owes p := by
  intro topic hmem
  rw [hann]
  exact h topic (hnames topic hmem)

theorem owes_changed {p : String → Prop} {c : Core H W} {α : Type} (h : c.Owes p)
    (changed : Registry.Changed H α)
    (hnames : (changed.announcement = none ∧ changed.registry.names = c.registry.names) ∨
      changed.announcement = some changed.registry.subscribeMessage) :
    ({ c with registry := changed.registry,
              outbox := c.outbox ++ changed.announcement.toList } : Core H W).Owes p := by
  rcases hnames with ⟨hnone, hsame⟩ | hsome
  · refine h.quiet ?_ ?_
    · exact fun topic hmem => hsame ▸ hmem
    · simp [hnone]
  · refine owes_of_announced ?_
    simp [hsome, announced_append, Registry.announced_subscribeMessage]

theorem owes_move {p : String → Prop} {c d : Core H W} (hmove : Move c d) (h : c.Owes p) :
    d.Owes p := by
  cases hmove with
  | act hact =>
    cases hact with
    | own => exact h
    | subscribe topic handler => exact owes_changed h _ (Registry.names_add topic handler _)
    | unsubscribe topic id => exact owes_changed h _ (Registry.names_remove topic id _)
    | close => exact h
  | publish now m => exact h.quiet (Registry.names_publish now m _) rfl
  | pong =>
    refine h.quiet (fun _ hmem => hmem) ?_
    simp [announced_append, announced_other (m := .pong) nofun]

theorem owes_moves {p : String → Prop} {c d : Core H W} (hmoves : Moves c d) (h : c.Owes p) :
    d.Owes p := by
  induction hmoves with
  | refl => exact h
  | tail _ hmove ih => exact owes_move hmove ih

/-- A closed core stays closed. -/
theorem closed_moves {c d : Core H W} (hmoves : Moves c d) (h : c.closed = true) :
    d.closed = true := by
  induction hmoves with
  | refl => exact h
  | tail _ hmove ih =>
    cases hmove with
    | act hact =>
      cases hact with
      | close => rfl
      | _ => exact ih
    | _ => exact ih

/-- Nobody changes the version of the protocol. -/
theorem version_moves {c d : Core H W} (hmoves : Moves c d) : d.version = c.version := by
  induction hmoves with
  | refl => rfl
  | tail _ hmove ih =>
    cases hmove with
    | act hact => cases hact <;> exact ih
    | _ => exact ih

/-- Announcing the topics again leaves nothing owed. -/
theorem owes_resubscribe (p : String → Prop) (c : Core H W) : c.resubscribe.Owes p := by
  rw [resubscribe]
  by_cases hempty : c.registry.topics.isEmpty = true
  · rw [if_pos hempty]
    intro topic hmem
    rw [Registry.names, List.isEmpty_iff.mp hempty] at hmem
    cases hmem
  · rw [if_neg hempty]
    refine owes_of_announced ?_
    simp [announced_append, Registry.announced_subscribeMessage]

end Core

/-- The calls of handlers do to the core what users of a client may do. -/
def Behaviour.Proper {H W : Type} (b : Behaviour H W) : Prop :=
  ∀ id h event c, Relation.ReflTransGen Core.Act c (b id h event c).2

section Inbound
variable {H W : Type} {b : Behaviour H W}

theorem Core.moves_call (hb : b.Proper) (id : HandlerId) (h : H) (event : TopicEvent)
    (c : Core H W) : Core.Moves c (b id h event c).2 :=
  Relation.ReflTransGen.mono (r := Core.Act) (fun _ _ => Core.Move.act) _ _ (hb id h event c)

theorem Core.moves_happen (hb : b.Proper) (now : Nat) (c : Core H W) (x : Happening H) :
    Core.Moves c (c.happen b now x) := by
  cases x with
  | published m => exact .single (.publish c now m)
  | responded m => exact .single (.act (.own c c.surroundings _))
  | pinged => exact .single (.pong c)
  | ponged => exact .refl
  | called id h event => exact Core.moves_call hb id h event c

theorem Core.moves_happenings (hb : b.Proper) (now : Nat) (hs : List (Happening H))
    (c : Core H W) : Core.Moves c (hs.foldl (Core.happen b now) c) := by
  induction hs generalizing c with
  | nil => exact .refl
  | cons x hs ih =>
    rw [List.foldl_cons]
    exact (Core.moves_happen hb now c x).trans (ih _)

theorem Inbound.Runs.moves (hb : b.Proper) {now : Nat} {i j : Inbound H W}
    {hs : List (Happening H)} (h : i.Runs b now hs j) : Core.Moves i.core j.core := by
  rw [h.core]
  exact Core.moves_happenings hb now hs i.core

theorem Core.moves_onPayload (hb : b.Proper) (now : Nat) (text : String) (c : Core H W) :
    Core.Moves c (c.onPayload b now text).core :=
  (Core.runs_onPayload b now text c).moves hb

theorem Core.moves_subscribe (hb : b.Proper) (topic : String) (h : H) (c : Core H W) :
    Core.Moves c (c.subscribe b topic h).2.core := by
  have hadd := Relation.ReflTransGen.single (Core.Move.act (Core.Act.subscribe c topic h))
  let added : Inbound H W :=
    { core :=
      { c with
        registry := (c.registry.add topic h).registry
        outbox := c.outbox ++ (c.registry.add topic h).announcement.toList } }
  rw [Core.subscribe]
  cases hreplay : (c.registry.add topic h).result.2 with
  | none => simpa only [hreplay] using hadd
  | some d =>
    simp only [hreplay]
    exact hadd.trans ((@Inbound.runs_deliver H W b 0 d added).moves hb)

end Inbound

open Relation in
/-- What listeners do, any user may do. -/
theorem Scenario.listen_proper : Behaviour.Proper listen := by
  have hnote : ∀ (name : String) (entry : Entry) (c : Core Listener Journal),
      ReflTransGen Core.Act c (note name entry c) := fun _ _ c => .single (.own c _ c.correlator)
  intro id h event c
  rw [listen]
  have hheard := hnote h.name (.heard event) c
  cases hreaction : h.reaction with
  | none => exact hheard
  | some reaction =>
    refine hheard.trans ?_
    cases reaction with
    | panic p => exact .refl
    | unsubscribe =>
      simp only [react]
      split
      · exact (ReflTransGen.single (.unsubscribe _ h.topic id)).trans (hnote _ _ _)
      · exact hnote _ _ _
    | subscribe topic =>
      simp only [react]
      split
      · exact .refl
      · exact .single (.subscribe _ topic _)
    | close => exact .single (.close _)

end TopicClient
