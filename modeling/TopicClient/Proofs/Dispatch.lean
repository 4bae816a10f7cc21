import TopicClient.Proofs.Announcements
import TopicClient.Proofs.Histories
import TopicClient.Proofs.Segments

/-!
# Payloads in one

Several payloads may be sent as one, with the separator between them, and nobody can tell:
the core, the calls of the handlers, what was recorded and which requests were answered are
the same. And a payload does no more than its messages ask for, one after the other.
-/

namespace TopicClient

namespace Wire

theorem result_unpack_joined (v : Version) {a : String} (apart : a.toList.getLast? ≠ some '\n')
    (b : String) :
    (unpack v (a ++ separator ++ b)).result = (unpack v a).result ++ (unpack v b).result := by
  have htext : (a ++ separator ++ b).toList = a.toList ++ '\n' :: '\n' :: b.toList := by
    simp [separator, separatorChars]
  simp only [unpack, result_unpackChars, htext, segments_separated apart, List.filterMap_append]

end Wire

/-- Whatever handlers do, the version of the protocol stays. -/
def Behaviour.KeepsVersion {H W : Type} (b : Behaviour H W) : Prop :=
  ∀ id h event c, (b id h event c).2.version = c.version

theorem Behaviour.Proper.keepsVersion {H W : Type} {b : Behaviour H W} (hb : b.Proper) :
    b.KeepsVersion :=
  fun id h event c => Core.version_moves (Core.moves_call hb id h event c)

/-- The handlers do nothing to what the client keeps for its transports. -/
structure Behaviour.Listening {H W : Type} (b : Behaviour H W) : Prop where
  registry : ∀ id h event c, (b id h event c).2.registry = c.registry
  correlator : ∀ id h event c, (b id h event c).2.correlator = c.correlator
  outbox : ∀ id h event c, (b id h event c).2.outbox = c.outbox

namespace Core
variable {H W : Type} {b : Behaviour H W} {now : Nat}

/-! ## Versions -/

theorem version_happen (hb : b.KeepsVersion) (c : Core H W) (x : Happening H) :
    (c.happen b now x).version = c.version := by
  cases x with
  | called id h event => exact hb id h event c
  | _ => rfl

theorem version_happenings (hb : b.KeepsVersion) (hs : List (Happening H)) (c : Core H W) :
    (hs.foldl (happen b now) c).version = c.version := by
  induction hs generalizing c with
  | nil => rfl
  | cons x hs ih => rw [List.foldl_cons, ih, version_happen hb]

/-! ## Histories of payloads -/

theorem version_onPayload (hb : b.KeepsVersion) (text : String) (c : Core H W) :
    (c.onPayload b now text).core.version = c.version := by
  rw [(runs_onPayload b now text c).core]
  exact version_happenings hb _ c

theorem onPayload_joined (hb : b.KeepsVersion) {a : String}
    (apart : a.toList.getLast? ≠ some '\n') (rest : String) (c : Core H W) :
    c.onPayload b now (a ++ Wire.separator ++ rest) =
      (Wire.unpack (c.onPayload b now a).core.version rest).result.foldl (Inbound.accept b now)
        (c.onPayload b now a) := by
  rw [version_onPayload hb, onPayload, Wire.result_unpack_joined c.version apart,
    List.foldl_append]
  rfl

theorem isPong_history (ms : List Message) (c : Core H W) :
    (c.history b now ms).any Happening.isPong = true ↔ ∃ m ∈ ms, m.kind = .pong := by
  have hown (x : Happening H) : (x.call?.isNone && x.isPong) = x.isPong := by cases x <;> rfl
  have hkind (m : Message) :
      (∃ x ∈ Happening.ofMessage? (H := H) m, x.isPong = true) ↔ m.kind = .pong := by
    rw [Happening.ofMessage?]
    cases m.kind <;> simp [Happening.isPong]
  have hsame : (c.history b now ms).any Happening.isPong =
      (ms.filterMap Happening.ofMessage?).any (Happening.isPong (H := H)) := by
    rw [← own_history b now ms c, List.any_filter]
    simp only [hown]
  rw [hsame, List.any_eq_true]
  constructor
  · rintro ⟨x, hx, hpong⟩
    obtain ⟨m, hm, hmx⟩ := List.mem_filterMap.mp hx
    exact ⟨m, hm, (hkind m).mp ⟨x, hmx, hpong⟩⟩
  · rintro ⟨m, hm, hpong⟩
    obtain ⟨x, hx, hisPong⟩ := (hkind m).mpr hpong
    exact ⟨x, List.mem_filterMap.mpr ⟨m, hm, hx⟩, hisPong⟩

/-! ## Handlers that only listen -/

theorem happenings_calls (hb : b.Listening) (d : Delivery H) (c : Core H W) :
    let after := (Happening.ofDelivery d).foldl (happen b now) c
    after.registry = c.registry ∧ after.correlator = c.correlator ∧ after.outbox = c.outbox := by
  obtain ⟨handlers, event⟩ := d
  rw [Happening.ofDelivery]
  dsimp only
  induction handlers generalizing c with
  | nil => exact ⟨rfl, rfl, rfl⟩
  | cons e rest ih =>
    obtain ⟨hregistry, hcorrelator, houtbox⟩ := ih (b e.1 e.2 event c).2
    exact ⟨hregistry.trans (hb.registry _ _ _ _), hcorrelator.trans (hb.correlator _ _ _ _),
      houtbox.trans (hb.outbox _ _ _ _)⟩

/-- From `c` to `d` the core takes these messages: the publishes go to the registry, the
responses to the correlator, and every ping is answered. -/
structure Takes (now : Nat) (ms : List Message) (c d : Core H W) : Prop where
  registry : d.registry = (ms.filter (·.kind = .publish)).foldl
    (fun r m => (r.publish now m).registry) c.registry
  correlator : d.correlator = (ms.filter (·.kind = .response)).foldl
    (fun k m => (k.resolve m).2) c.correlator
  outbox : d.outbox = c.outbox ++ (ms.filter (·.kind = .ping)).map fun _ => .pong

theorem Takes.trans {ms more : List Message} {c d e : Core H W} (h : Takes now ms c d)
    (h' : Takes now more d e) : Takes now (ms ++ more) c e where
  registry := by rw [List.filter_append, List.foldl_append, ← h.registry, h'.registry]
  correlator := by rw [List.filter_append, List.foldl_append, ← h.correlator, h'.correlator]
  outbox := by
    rw [List.filter_append, List.map_append, ← List.append_assoc, ← h.outbox, h'.outbox]

theorem takes_reactions (hb : b.Listening) (m : Message) (c : Core H W) :
    Takes now [m] c ((c.reactions now m).foldl (happen b now) c) := by
  rw [reactions, Happening.ofMessage?]
  cases hkind : m.kind with
  | publish =>
    let published := c.happen b now (.published m)
    have hcalls : Takes now [m] c published := by
      constructor <;> simp [hkind, published, happen]
    cases (Registry.Op.publish now m).delivery? c.registry with
    | none => exact hcalls
    | some d =>
      obtain ⟨hregistry, hcorrelator, houtbox⟩ := @happenings_calls H W b now hb d published
      exact ⟨hregistry.trans hcalls.registry, hcorrelator.trans hcalls.correlator,
        houtbox.trans hcalls.outbox⟩
  | _ => constructor <;> simp [hkind, happen]

/-- Handlers that only listen leave no trace in what the messages make of the core. -/
theorem takes_history (hb : b.Listening) (ms : List Message) (c : Core H W) :
    Takes now ms c ((c.history b now ms).foldl (happen b now) c) := by
  induction ms generalizing c with
  | nil => exact ⟨rfl, rfl, (List.append_nil _).symm⟩
  | cons m ms ih =>
    rw [history, List.foldl_append]
    exact (takes_reactions hb m c).trans (ih _)

/-! ## Batches and messages -/

/-- Payloads that are sent as one do what they do one after the other, as long as none but
the last ends in a line feed. And whatever the handlers do, a payload yields a pong if one
of its messages is one; it leaves the core that its happenings leave, calls the handlers
that they call, and apart from those calls they are what its messages do by themselves, in
order. If the handlers only listen, the publishes have gone to the registry, the responses
to the correlator, and as many pongs into the outbox as there were pings. -/
theorem payloads_taken_in_order (b : Behaviour H W) (now : Nat) (c : Core H W) :
    (b.KeepsVersion → ∀ a rest : String, a.toList.getLast? ≠ some '\n' →
      let i := c.onPayload b now a
      let j := i.core.onPayload b now rest
      let both := c.onPayload b now (a ++ Wire.separator ++ rest)
      both.core = j.core ∧ both.calls = i.calls ++ j.calls ∧
        both.records = i.records ++ j.records ∧ both.answered = i.answered ++ j.answered ∧
        both.pong = (i.pong || j.pong)) ∧
    ∀ text,
      let ms := (Wire.unpack c.version text).result
      let hs := c.history b now ms
      let i := c.onPayload b now text
      (i.pong = true ↔ ∃ m ∈ ms, m.kind = .pong) ∧
        (i.core = hs.foldl (happen b now) c ∧ i.calls = hs.filterMap Happening.call? ∧
          hs.filter (·.call?.isNone) = ms.filterMap Happening.ofMessage?) ∧
        (b.Listening → Takes now ms c i.core) := by
  constructor
  · intro hb a rest apart i j both
    have hj := runs_onPayload b now rest i.core
    have hboth : i.Runs b now (i.core.history b now (Wire.unpack i.core.version rest).result)
        both := by
      have hfold : both = _ := onPayload_joined hb apart rest c
      rw [hfold]
      exact Inbound.runs_fold _ i
    refine ⟨hboth.core.trans hj.core.symm, ?_, ?_, ?_, ?_⟩
    · rw [hboth.calls, hj.calls, List.nil_append]
    · rw [hboth.records, hj.records, List.nil_append]
    · rw [hboth.answered, hj.answered, List.nil_append]
    · rw [hboth.pong, hj.pong, Bool.false_or]
  · intro text ms hs i
    have hi := runs_onPayload b now text c
    refine ⟨?_, ⟨hi.core, hi.calls, own_history b now ms c⟩, ?_⟩
    · rw [hi.pong, Bool.false_or]
      exact isPong_history ms c
    · intro hb
      rw [hi.core]
      exact takes_history hb ms c

/-- A handler of "t" that subscribes to "u" when it is told that "t" is closed finds "u" in
the rest of the payload already. One that only keeps what it hears is told of the close, and
nothing more comes of it. -/
theorem payloads_taken_in_order_closing :
    let c : Core Scenario.Listener Scenario.Journal :=
      { version := .v2, surroundings := {},
        registry := (({} : Registry Scenario.Listener).add "t"
          { name := "x", topic := "t", reaction := some (.subscribe "u") }).registry }
    let closing := Wire.packBatch .v2 [.publish "t" 1 .close none, .ping 7]
    let rest := Wire.packBatch .v2 [.publish "u" 2 .full none, .pong]
    let i := c.onPayload Scenario.listen 0 closing
    let j := i.core.onPayload Scenario.listen 0 rest
    let both := c.onPayload Scenario.listen 0 (closing ++ Wire.separator ++ rest)
    let hear : Behaviour Scenario.Listener Scenario.Journal := fun _ h event c =>
      (none, Scenario.note h.name (.heard event) c)
    let heard := c.onPayload hear 0 closing
    (both.core = j.core ∧ both.calls = i.calls ++ j.calls ∧ both.records = i.records ++ j.records ∧
        both.answered = i.answered ++ j.answered ∧ both.pong = (i.pong || j.pong)) ∧
      both.calls.map (·.1) = [1, 2] ∧ both.pong = true ∧
      Takes 0 (Wire.unpack .v2 closing).result c heard.core ∧ heard.calls.map (·.1) = [1] := by
  intro c closing rest i j both hear heard
  have hb : Scenario.listen.KeepsVersion := Scenario.listen_proper.keepsVersion
  have hhear : hear.Listening := ⟨fun _ _ _ _ => rfl, fun _ _ _ _ => rfl, fun _ _ _ _ => rfl⟩
  have apart : closing.toList.getLast? ≠ some '\n' := by decide +kernel
  have hjoined := (payloads_taken_in_order Scenario.listen 0 c).1 hb closing rest apart
  have hheard := (payloads_taken_in_order hear 0 c).2 closing
  exact ⟨hjoined, by decide +kernel, by decide +kernel, hheard.2.2 hhear, by decide +kernel⟩

end Core

end TopicClient
