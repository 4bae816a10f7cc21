import TopicClient.Snapshot.ListView
import TopicClient.Proofs.Provenance

/-!
# A value merged into nothing

An object that is merged into an empty snapshot leaves the snapshot that the same object
makes as a whole value, once its null members are gone: the tree with the order of its
fields and their kinds, the structural parents and the lists.
-/

namespace TopicClient

namespace Json

mutual

/-- The value less the null members of every object that is reached through objects. -/
def pruned : Json → Json
  | .obj ms => .obj (prunedMembers ms)
  | v => v
termination_by structural v => v

def prunedMembers : List (String × Json) → List (String × Json)
  | [] => []
  | (key, v) :: ms =>
    if v.isNull then prunedMembers ms else (key, v.pruned) :: prunedMembers ms
termination_by structural ms => ms

end

theorem mem_keys_of_pruned {key : String} {ms : List (String × Json)}
    (h : key ∈ Assoc.keys (prunedMembers ms)) : key ∈ Assoc.keys ms := by
  induction ms with
  | nil => exact h
  | cons e ms ih =>
    obtain ⟨k, v⟩ := e
    by_cases hnull : v.isNull = true
    · rw [prunedMembers, if_pos hnull] at h
      exact List.mem_cons_of_mem _ (ih h)
    · rw [prunedMembers, if_neg hnull] at h
      rcases List.mem_cons.mp h with rfl | h
      · exact List.mem_cons_self
      · exact List.mem_cons_of_mem _ (ih h)

theorem find?_prunedMembers {ms : List (String × Json)} (h : Assoc.Distinct ms) (key : String) :
    Assoc.find? key (prunedMembers ms) =
      (Assoc.find? key ms).bind fun v => if v.isNull then none else some v.pruned := by
  induction ms with
  | nil => rfl
  | cons e ms ih =>
    obtain ⟨k, v⟩ := e
    obtain ⟨fresh, rest⟩ := Assoc.distinct_cons.mp h
    by_cases hk : k = key
    · subst hk
      have hgone : Assoc.find? k (prunedMembers ms) = none :=
        Assoc.find?_eq_none_iff.mpr fun hmem => fresh (mem_keys_of_pruned hmem)
      by_cases hnull : v.isNull = true
      · simp [prunedMembers, Assoc.find?, hnull, hgone]
      · simp [prunedMembers, Assoc.find?, hnull]
    · by_cases hnull : v.isNull = true
      · simp [prunedMembers, Assoc.find?, hnull, hk, ih rest]
      · simp [prunedMembers, Assoc.find?, hnull, hk, ih rest]

end Json

namespace NodeKind

theorem isMarked_pruned {ms : List (String × Json)} (h : Assoc.Distinct ms) (marker : String) :
    isMarked marker (Json.prunedMembers ms) = isMarked marker ms := by
  rw [isMarked, isMarked, Json.find?_prunedMembers h]
  cases Assoc.find? marker ms with
  | none => rfl
  | some v => cases v <;> rfl

/-- A null declares no kind. -/
theorem ofMarkers?_pruned {ms : List (String × Json)} (h : Assoc.Distinct ms) :
    ofMarkers? (Json.prunedMembers ms) = ofMarkers? ms := by
  rw [ofMarkers?, ofMarkers?, isMarked_pruned h, isMarked_pruned h]

end NodeKind

namespace Node

mutual

theorem merge_none (s : Stamp) (v : Json) (h : v.Canonical) :
    merge s none v = if v.isNull then none else some (ofJson v.pruned) := by
  cases v with
  | obj ms =>
    have hms := Assoc.distinct_of_ascending h.1
    have hfields := mergeFields_fresh s ms h.2 hms [] (by simp)
    simp only [merge, base, Option.getD_none, empty, kind, fields, hfields, List.nil_append,
      Json.isNull, Json.pruned, ofJson, NodeKind.ofMarkers?_pruned hms]
    rfl
  | _ => rfl
termination_by structural v

/-- Members whose names are new to the object become its last fields, in their order. -/
theorem mergeFields_fresh (s : Stamp) (ms : List (String × Json)) (h : Json.CanonicalMembers ms)
    (hms : Assoc.Distinct ms) (fs : List (String × Node))
    (fresh : ∀ key ∈ Assoc.keys ms, key ∉ Assoc.keys fs) :
    mergeFields s fs ms = fs ++ ofMembers (Json.prunedMembers ms) := by
  match ms with
  | [] => simp [mergeFields, Json.prunedMembers, ofMembers]
  | (key, v) :: ms =>
    obtain ⟨hkey, hms⟩ := Assoc.distinct_cons.mp hms
    have hnew : key ∉ Assoc.keys fs := fresh key List.mem_cons_self
    have hrest : ∀ k ∈ Assoc.keys ms, k ∉ Assoc.keys fs := fun k hk =>
      fresh k (List.mem_cons_of_mem _ hk)
    rw [mergeFields, Assoc.find?_eq_none_iff.mpr hnew, merge_none s v h.1, Json.prunedMembers]
    by_cases hnull : v.isNull = true
    · rw [if_pos hnull, if_pos hnull, setField, Assoc.erase_of_not_mem hnew]
      exact mergeFields_fresh s ms h.2 hms fs hrest
    · rw [if_neg hnull, if_neg hnull, setField, Assoc.put_of_not_mem _ hnew,
        mergeFields_fresh s ms h.2 hms _ ?_, ofMembers, List.append_assoc]
      · rfl
      · intro k hk hmem
        rw [Assoc.keys_append] at hmem
        rcases List.mem_append.mp hmem with hold | hlast
        · exact hrest k hk hold
        · obtain rfl := List.mem_singleton.mp hlast
          exact hkey hk
termination_by structural ms

end

end Node

namespace Parents

mutual

theorem merge_none (kind : NodeKind) (container : Path) (key : String) (ps : Parents) (v : Json)
    (h : v.Canonical) :
    merge kind container key none ps v =
      if v.isNull then ps else ofJson kind container key ps v.pruned := by
  cases v with
  | obj ms =>
    change mergeMembers ((NodeKind.ofMarkers? ms).getD .struct) (container ++ [key]) []
        (record kind container key ps) ms =
      ofMembers ((NodeKind.ofMarkers? (Json.prunedMembers ms)).getD .struct) (container ++ [key])
        (record kind container key ps) (Json.prunedMembers ms)
    rw [NodeKind.ofMarkers?_pruned (Assoc.distinct_of_ascending h.1)]
    exact mergeMembers_none _ (container ++ [key]) _ ms h.2
  | _ => rfl
termination_by structural v

/-- Where there are no fields yet, no null forgets anything. -/
theorem mergeMembers_none (kind : NodeKind) (path : Path) (ps : Parents)
    (ms : List (String × Json)) (h : Json.CanonicalMembers ms) :
    mergeMembers kind path [] ps ms = ofMembers kind path ps (Json.prunedMembers ms) := by
  match ms with
  | [] => rfl
  | (key, v) :: ms =>
    rw [mergeMembers, Assoc.find?, merge_none kind path key ps v h.1, Json.prunedMembers]
    by_cases hnull : v.isNull = true
    · rw [if_pos hnull, if_pos hnull]
      exact mergeMembers_none kind path ps ms h.2
    · rw [if_neg hnull, if_neg hnull]
      exact mergeMembers_none kind path _ ms h.2
termination_by structural ms

end

end Parents

namespace Snapshot

theorem merge_empty (track : Bool) (now : Int) {v : Json} (hobj : v.isObject = true)
    (hv : v.Canonical) : (empty track).merge now v = ofJson track v.pruned := by
  cases v with
  | obj ms =>
    have hroot := Node.merge_none ⟨track, now⟩ (.obj ms) hv
    have hkind := NodeKind.ofMarkers?_pruned (Assoc.distinct_of_ascending hv.1)
    have hparents := Parents.mergeMembers_none ((NodeKind.ofMarkers? ms).getD .struct) [] [] ms hv.2
    simp only [ofJson, Json.pruned, Json.members, hkind]
    rw [← hparents]
    exact congrArg (fun root => Snapshot.mk (root.getD .empty) _ track) hroot
  | _ => cases hobj

/-- Merging an object into an empty snapshot is the same as taking it whole without its null
members: the trees, their kinds, the order of the fields, the parents and the lists are
equal. No leaf carries a change. -/
theorem merge_empty_whole {v : Json} (hobj : v.isObject = true) (hv : v.Canonical)
    (track : Bool) (now : Int) :
    (Gallery.ofSnapshot (empty track)).merge now v = Gallery.ofSnapshot (ofJson track v.pruned) ∧
      ∀ path, ((empty track).merge now v).change? path = none := by
  have hmerge := merge_empty track now hobj hv
  constructor
  · simp [Gallery.merge, Gallery.ofSnapshot, hmerge]
  · intro path
    rw [hmerge, change?, Option.bind_eq_none_iff]
    exact fun n hn => Node.change?_ofJson path hn

/-- A map at the root and a map below it; nulls go at every level but in a list. -/
theorem merge_empty_whole_maps :
    let v := Json.obj [("_isMap", .bool true), ("a", .obj [("_isMap", .bool true),
      ("x", .null), ("y", .obj [("z", .null)])]), ("b", .null), ("c", .arr [.null])]
    v.isObject = true ∧ v.Canonical ∧
      (Gallery.ofSnapshot (empty true)).merge 5 v =
        Gallery.ofSnapshot (ofJson true (.obj [("_isMap", .bool true),
          ("a", .obj [("_isMap", .bool true), ("y", .obj [])]), ("c", .arr [.null])])) ∧
      ((empty true).merge 5 v).change? ["c"] = none := by
  intro v
  have canonical : v.Canonical :=
    ⟨by decide, trivial, ⟨by decide, trivial, trivial, ⟨by decide, trivial, trivial⟩, trivial⟩,
      trivial, ⟨trivial, trivial⟩, trivial⟩
  obtain ⟨whole, unchanged⟩ := merge_empty_whole (v := v) rfl canonical true 5
  exact ⟨rfl, canonical, whole, unchanged ["c"]⟩

end Snapshot

end TopicClient
