import TopicClient.Proofs.Patch
import TopicClient.Settings.Load

/-!
# Documents laid over documents

What a document laid over an object leaves at a name is decided by the two members of that name
alone: a null member leaves what is there, and any other member is laid over it. From this one law
it follows that a document laid over itself, or a second time over another one, changes nothing.
-/

namespace TopicClient.Json

/-- A member after another one, if any is there, has been laid under it. -/
def overlaid? (old : Option Json) (v : Json) : Option Json :=
  if v.isNull then old else some (old.elim v fun t => t.overlay v)

/-- A target that is no object leaves nothing. -/
theorem overlay_of_flat {target : Json} (h : target.isObject = false) (v : Json) :
    target.overlay v = v := by
  cases v with
  | obj ms =>
    cases target with
    | obj ts => cases h
    | _ => rfl
  | _ => rfl

theorem overlay_obj (ts ms : List (String × Json)) :
    (Json.obj ts).overlay (.obj ms) = .obj (overlayMembers ts ms) := rfl

/-- One member laid over an object. -/
def overlayMember (ts : List (String × Json)) (e : String × Json) : List (String × Json) :=
  if e.2.isNull then ts
  else Assoc.insert e.1 ((Assoc.find? e.1 ts).elim e.2 fun t => t.overlay e.2) ts

theorem overlayMembers_eq_foldl (ts ms : List (String × Json)) :
    overlayMembers ts ms = ms.foldl overlayMember ts := by
  induction ms generalizing ts with
  | nil => rfl
  | cons e ms ih =>
    obtain ⟨key, v⟩ := e
    rw [List.foldl_cons, ← ih, overlayMembers, overlayMember]
    by_cases hnull : v.isNull
    · simp only [if_pos hnull]
    · simp only [if_neg hnull]
      cases Assoc.find? key ts <;> rfl

theorem find?_overlayMember_self (ts : List (String × Json)) (e : String × Json) :
    Assoc.find? e.1 (overlayMember ts e) = overlaid? (Assoc.find? e.1 ts) e.2 := by
  rw [overlayMember, overlaid?]
  split
  · rfl
  · exact Assoc.find?_insert_self e.1 _ ts

theorem find?_overlayMember_of_ne (ts : List (String × Json)) (e : String × Json) (key : String)
    (h : key ≠ e.1) : Assoc.find? key (overlayMember ts e) = Assoc.find? key ts := by
  rw [overlayMember]
  split
  · rfl
  · exact Assoc.find?_insert_of_ne h _ ts

theorem ascending_overlayMembers {ts : List (String × Json)} (h : Assoc.Ascending ts)
    (ms : List (String × Json)) : Assoc.Ascending (overlayMembers ts ms) := by
  rw [overlayMembers_eq_foldl]
  refine Assoc.foldl_keeps (fun ts e hts => ?_) ms h
  rw [overlayMember]
  split
  · exact hts
  · exact Assoc.ascending_insert hts

/-- What stands at a name in the end. -/
theorem find?_overlayMembers {ms : List (String × Json)} (h : Assoc.Distinct ms)
    (ts : List (String × Json)) (key : String) :
    Assoc.find? key (overlayMembers ts ms) =
      (Assoc.find? key ms).elim (Assoc.find? key ts) (overlaid? (Assoc.find? key ts)) := by
  rw [overlayMembers_eq_foldl]
  exact Assoc.find?_foldl (p := fun _ => True) (fun _ _ _ => trivial)
    (fun ts e _ => find?_overlayMember_self ts e) find?_overlayMember_of_ne h trivial key

/-! ## Laid over again -/

theorem eq_null_of_isNull {v : Json} (h : v.isNull = true) : v = .null := by
  cases v with
  | null => rfl
  | _ => cases h

/-- A value that is no object takes the place of any other. -/
theorem overlay_flat (t : Json) {v : Json} (h : v.isObject = false) : t.overlay v = v := by
  cases v with
  | obj ms => cases h
  | _ => rfl

theorem overlaid?_self {v : Json} (hself : v.overlay v = v) : overlaid? (some v) v = some v := by
  rw [overlaid?, Option.elim, hself, ite_self]

theorem overlaid?_again {old : Option Json} {v : Json} (hself : v.overlay v = v)
    (hagain : ∀ t, old = some t → (t.overlay v).overlay v = t.overlay v) :
    overlaid? (overlaid? old v) v = overlaid? old v := by
  cases hnull : v.isNull with
  | true => simp only [overlaid?, hnull, if_true]
  | false =>
    cases old with
    | none => simp [overlaid?, hnull, hself]
    | some t => simp [overlaid?, hnull, hagain t rfl]

/-- Laid over itself, a document stays as it is, with every null that it holds. -/
theorem overlay_self {v : Json} (h : v.Canonical) : v.overlay v = v := by
  induction v using members_rec with
  | obj ms ih =>
    rw [overlay_obj]
    refine congrArg Json.obj (Assoc.eq_of_find? (ascending_overlayMembers h.1 ms) h.1 ?_)
    intro key
    rw [find?_overlayMembers (Assoc.distinct_of_ascending h.1)]
    cases hfound : Assoc.find? key ms with
    | none => rfl
    | some v => exact overlaid?_self (ih key v hfound (canonical_of_find? h.2 hfound))
  | other v hflat => exact overlay_flat v hflat

/-- The members of the lower document go down with those of the upper one, since a name that
stands in both is laid over again below. -/
theorem overlay_again {t s : Json} (ht : t.Canonical) (hs : s.Canonical) :
    (t.overlay s).overlay s = t.overlay s := by
  induction s using members_rec generalizing t with
  | other s hflat => rw [overlay_flat t hflat, overlay_flat s hflat]
  | obj ms ih =>
    cases t with
    | obj ts =>
      have hms := Assoc.distinct_of_ascending hs.1
      have honce := ascending_overlayMembers ht.1 ms
      rw [overlay_obj, overlay_obj]
      refine congrArg Json.obj (Assoc.eq_of_find? (ascending_overlayMembers honce ms) honce ?_)
      intro key
      rw [find?_overlayMembers hms, find?_overlayMembers hms]
      cases hfound : Assoc.find? key ms with
      | none => rfl
      | some v =>
        have hv : v.Canonical := canonical_of_find? hs.2 hfound
        refine overlaid?_again (overlay_self hv) ?_
        intro w hw
        exact ih key v hfound (canonical_of_find? ht.2 hw) hv
    | _ => exact overlay_self hs

/-! ## Objects over objects -/

/-- What an object leaves that has been laid over another. -/
structure LaidOver (below above result : Json) : Prop where
  isObject : result.isObject = true
  ascending : Assoc.Ascending result.members
  names : ∀ key, key ∈ Assoc.keys result.members ↔
    key ∈ Assoc.keys below.members ∨ ∃ v, above.member? key = some v ∧ v ≠ .null
  /-- What is missing or null above leaves the member below. -/
  kept : ∀ key, above.member? key = none ∨ above.member? key = some .null →
    result.member? key = below.member? key
  /-- A new member comes as it is, with the nulls in it. -/
  taken : ∀ key v, below.member? key = none → above.member? key = some v → v ≠ .null →
    result.member? key = some v
  merged : ∀ key t v, below.member? key = some t → above.member? key = some v → v ≠ .null →
    result.member? key = some (t.overlay v)

theorem overlaid?_null (old : Option Json) : overlaid? old .null = old := rfl

theorem overlaid?_of_ne {v : Json} (h : v ≠ .null) (old : Option Json) :
    overlaid? old v = some (old.elim v fun t => t.overlay v) := by
  rw [overlaid?, if_neg fun hnull => h (eq_null_of_isNull hnull)]

theorem laidOver_overlay {ts ms : List (String × Json)} (hts : Assoc.Ascending ts)
    (hms : Assoc.Ascending ms) : LaidOver (.obj ts) (.obj ms) ((Json.obj ts).overlay (.obj ms)) := by
  have hlaw : ∀ key, ((Json.obj ts).overlay (.obj ms)).member? key =
      (member? key (.obj ms)).elim (member? key (.obj ts)) (overlaid? (member? key (.obj ts))) :=
    find?_overlayMembers (Assoc.distinct_of_ascending hms) ts
  constructor
  case isObject => rfl
  case ascending => exact ascending_overlayMembers hts ms
  case kept =>
    rintro key (habove | habove)
    · rw [hlaw, habove, Option.elim]
    · rw [hlaw, habove, Option.elim, overlaid?_null]
  case taken =>
    intro key v hbelow habove hv
    rw [hlaw, habove, hbelow, Option.elim, overlaid?_of_ne hv, Option.elim]
  case merged =>
    intro key t v hbelow habove hv
    rw [hlaw, habove, hbelow, Option.elim, overlaid?_of_ne hv, Option.elim]
  case names =>
    intro key
    rw [← Assoc.find?_isSome_iff, ← Assoc.find?_isSome_iff]
    change (member? key _).isSome ↔ (member? key (.obj ts)).isSome ∨ _
    rw [hlaw]
    cases habove : member? key (.obj ms) with
    | none => simp
    | some v =>
      by_cases hv : v = .null
      · subst hv
        simp [overlaid?_null]
      · simp [overlaid?_of_ne hv, hv]

/-- A document laid over itself, or laid twice over another one, changes nothing the second time.
Of two objects the result has the names of the lower one and those that are not null in the upper
one: a name that is missing or null above keeps its member, a new one comes with its member as it
is, and where both have a member the upper one is laid over the lower one. -/
theorem overlay_memberwise {t s : Json} (ht : t.Canonical) (hs : s.Canonical) :
    (t.overlay s).overlay s = t.overlay s ∧ t.overlay t = t ∧
      (t.isObject = true → s.isObject = true → LaidOver t s (t.overlay s)) := by
  refine ⟨overlay_again ht hs, overlay_self ht, ?_⟩
  intro hbelow habove
  cases t with
  | obj ts =>
    cases s with
    | obj ms => exact laidOver_overlay ht.1 hs.1
    | _ => cases habove
  | _ => cases hbelow

/-- Nulls above a member, in a new member, and in one that takes the place of a text. -/
theorem overlay_memberwise_nulls :
    let t : Json := .obj [("a", .obj [("b", .bool true), ("c", .null)]), ("k", .arr []),
      ("x", .str "old")]
    let s : Json := .obj [("a", .obj [("b", .null), ("c", .obj [("d", .null)])]), ("k", .null),
      ("n", .obj [("e", .null)]), ("x", .obj [("y", .null)]), ("z", .null)]
    let laid : Json := .obj [("a", .obj [("b", .bool true), ("c", .obj [("d", .null)])]),
      ("k", .arr []), ("n", .obj [("e", .null)]), ("x", .obj [("y", .null)])]
    t.Canonical ∧ s.Canonical ∧ t.isObject = true ∧ s.isObject = true ∧
      t.overlay s = laid ∧ laid.overlay s = laid ∧ t.overlay t = t ∧ LaidOver t s laid := by
  intro t s laid
  have ht : t.Canonical := by
    simp only [t, Canonical, CanonicalMembers, CanonicalItems, and_true]
    decide
  have hs : s.Canonical := by
    simp only [s, Canonical, CanonicalMembers, and_true, true_and]
    decide
  have hlaid : t.overlay s = laid := rfl
  obtain ⟨hagain, hself, hmembers⟩ := overlay_memberwise ht hs
  rw [hlaid] at hagain hmembers
  exact ⟨ht, hs, rfl, rfl, hlaid, hagain, hself, hmembers rfl rfl⟩

end TopicClient.Json
