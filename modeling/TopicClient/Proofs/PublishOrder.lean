import TopicClient.Proofs.ChangeTimes

/-!
# The order of publishes

A publish reads and writes the subscription of its own topic. Two publishes to different
topics may come in either order: they leave the same registry and tell the same.
-/

namespace TopicClient.Registry

variable {H : Type}

theorem find?_publish_of_ne {other : String} {m : Message} (h : other ≠ m.topic) (now : Int)
    (r : Registry H) : (r.publish now m).registry.find? other = r.find? other := by
  have hne : other ≠ (Op.publish now m : Op H).topic := h
  exact find?_apply_of_ne hne r

theorem track_publish (now : Int) (m : Message) (r : Registry H) :
    (r.publish now m).registry.track = r.track :=
  track_apply (.publish now m) r

/-- What a publish tells follows from the subscription of its topic. -/
theorem outcome_publish_congr {r r' : Registry H} {m : Message}
    (hfind : r.find? m.topic = r'.find? m.topic) (htrack : r.track = r'.track) (now : Int) :
    (r.publish now m).outcome = (r'.publish now m).outcome := by
  obtain ⟨topics, last, track⟩ := r
  obtain ⟨topics', last', track'⟩ := r'
  obtain rfl : track = track' := htrack
  rw [publish, publish, hfind]
  cases (Registry.mk topics' last' track).find? m.topic with
  | none => rfl
  | some s =>
    dsimp only
    cases m.update.getD .diff <;> rfl

section Exchange
variable {a b : Message} (h : a.topic ≠ b.topic)
include h

theorem outcome_publish_publish (ta tb : Int) (r : Registry H) :
    ((r.publish ta a).registry.publish tb b).outcome = (r.publish tb b).outcome :=
  outcome_publish_congr (find?_publish_of_ne (Ne.symm h) ta r) (track_publish ta a r) tb

theorem registry_publish_comm (ta tb : Int) (r : Registry H) :
    ((r.publish ta a).registry.publish tb b).registry =
      ((r.publish tb b).registry.publish ta a).registry := by
  have ha : (r.publish tb b).registry.find? a.topic = r.find? a.topic :=
    find?_publish_of_ne h tb r
  have hb : (r.publish ta a).registry.find? b.topic = r.find? b.topic :=
    find?_publish_of_ne (Ne.symm h) ta r
  generalize hleft : (r.find? a.topic).bind (Subscription.published? ta r.track a) = leftA
  generalize hright : (r.find? b.topic).bind (Subscription.published? tb r.track b) = leftB
  have htracked : leftA.isSome → a.topic ∈ r.names := by
    rw [← hleft]
    intro hsome
    exact Assoc.find?_isSome_iff.mp (Option.isSome_of_isSome_bind hsome)
  calc ((r.publish ta a).registry.publish tb b).registry
    _ = (r.settle a.topic leftA).settle b.topic leftB := by
      rw [registry_publish tb b, hb, track_publish, registry_publish ta a, hleft, hright]
    _ = (r.settle b.topic leftB).settle a.topic leftA := by
      simp only [settle, Assoc.settle_comm h htracked]
    _ = ((r.publish tb b).registry.publish ta a).registry := by
      rw [registry_publish ta a, ha, track_publish, registry_publish tb b, hleft, hright]

end Exchange

/-- Publishes to different topics commute. At whatever times the two are applied, in either
order, the registry comes to be the same, up to the times of changes, and so does what each
of them tells, and whom. -/
theorem publishes_commute (r : Registry H) {a b : Message} (h : a.topic ≠ b.topic)
    (ta tb ta' tb' : Int) :
    let first := r.publish ta a
    let both := first.registry.publish tb b
    let first' := r.publish tb' b
    let both' := first'.registry.publish ta' a
    both.registry.untimed = both'.registry.untimed ∧
      both.registry.subscribeMessage = both'.registry.subscribeMessage ∧
      first.outcome.untimed = both'.outcome.untimed ∧
      both.outcome.untimed = first'.outcome.untimed := by
  intro first both first' both'
  have hregistry : both.registry.untimed = both'.registry.untimed :=
    calc both.registry.untimed
      _ = ((r.untimed.publish 0 a).registry.publish 0 b).registry := by
        rw [untimed_registry_publish, untimed_registry_publish]
      _ = ((r.untimed.publish 0 b).registry.publish 0 a).registry :=
        registry_publish_comm h 0 0 r.untimed
      _ = both'.registry.untimed := by
        rw [untimed_registry_publish, untimed_registry_publish]
  refine ⟨hregistry, ?_, ?_, ?_⟩
  · rw [← subscribeMessage_untimed, hregistry, subscribeMessage_untimed]
  · rw [outcome_publish_publish (Ne.symm h), untimed_outcome_publish, untimed_outcome_publish]
  · rw [outcome_publish_publish h, untimed_outcome_publish, untimed_outcome_publish]

/-- One topic is closed; a leaf of the other one changes, at another time in each order. -/
theorem publishes_commute_closing :
    let r : Registry Unit :=
      run true [.add "x" (), .add "y" (), .publish 1 (.publish "y" 1 .full (some
        (.obj [("v", .bool false)])))]
    let a := Message.publish "x" 3 .close none
    let b := Message.publish "y" 4 .diff (some (.obj [("v", .bool true)]))
    let both := (r.publish 2 a).registry.publish 3 b
    let both' := (r.publish 5 b).registry.publish 8 a
    a.topic ≠ b.topic ∧ both.registry.untimed = both'.registry.untimed ∧
      both.registry.names = ["y"] ∧ both'.registry.names = ["y"] ∧
      (both.registry.snapshot? "y").bind (Snapshot.change? ["v"]) = some ⟨.bool false, 3⟩ ∧
      (both'.registry.snapshot? "y").bind (Snapshot.change? ["v"]) = some ⟨.bool false, 5⟩ := by
  intro r a b both both'
  have apart : a.topic ≠ b.topic := by decide
  exact ⟨apart, (publishes_commute r apart 2 3 8 5).1, rfl, rfl, rfl, rfl⟩

end TopicClient.Registry
