import TopicClient.Snapshot.ListView
import TopicClient.Proofs.Trees

/-!
# A merge is a patch

Merging a diff into a snapshot shows the patched value, up to the sign of zero,
and leaves every path alone that the diff does not reach.
-/

namespace TopicClient

namespace Json

theorem eq_obj_of_isObject {v : Json} (h : v.isObject = true) : ∃ ms, v = .obj ms := by
  cases v with
  | obj ms => exact ⟨ms, rfl⟩
  | _ => cases h

theorem at?_obj_cons (ms : List (String × Json)) (key : String) (path : Path) :
    (obj ms).at? (key :: path) = (Assoc.find? key ms).bind (at? path) := rfl

theorem at?_cons_other {v : Json} (h : v.isObject = false) (key : String) (path : Path) :
    v.at? (key :: path) = none := by
  cases v with
  | obj ms => cases h
  | _ => rfl

theorem reaches_other {d : Json} (h : d.isObject = false) (path : Path) :
    d.reaches path = true := by
  cases d with
  | obj ds => cases h
  | _ => simp [reaches]

/-- A diff reaches the paths that it has a value for. -/
theorem at?_of_not_reaches (path : Path) {d : Json} (h : d.reaches path = false) :
    d.at? path = none := by
  induction path generalizing d with
  | nil => cases d <;> simp [reaches] at h
  | cons key path ih =>
    cases d with
    | obj ds =>
      rw [at?_obj_cons]
      cases hfound : Assoc.find? key ds with
      | none => rfl
      | some d => exact ih (by simpa [reaches, hfound] using h)
    | _ => simp [reaches] at h

end Json

namespace Node

theorem distinct_setField {key : String} {fs : List (String × Node)}
    (h : Assoc.Distinct fs) (n : Option Node) : Assoc.Distinct (setField key fs n) := by
  cases n with
  | none => exact Assoc.distinct_erase h
  | some n => exact Assoc.distinct_put h

theorem find?_setField_self {key : String} {fs : List (String × Node)}
    (h : Assoc.Distinct fs) (n : Option Node) : Assoc.find? key (setField key fs n) = n := by
  cases n with
  | none => exact Assoc.find?_erase_self h
  | some n => exact Assoc.find?_put_self key n fs

theorem find?_setField_of_ne {key other : String} (h : other ≠ key)
    (fs : List (String × Node)) (n : Option Node) :
    Assoc.find? other (setField key fs n) = Assoc.find? other fs := by
  cases n with
  | none => exact Assoc.find?_erase_of_ne h fs
  | some n => exact Assoc.find?_put_of_ne h n fs

theorem mergeFields_eq_foldl (s : Stamp) (ds : List (String × Json))
    (fs : List (String × Node)) :
    mergeFields s fs ds =
      ds.foldl (fun fs e => setField e.1 fs (merge s (Assoc.find? e.1 fs) e.2)) fs := by
  induction ds generalizing fs with
  | nil => rfl
  | cons e ds ih => exact ih _

theorem distinct_mergeFields (s : Stamp) {fs : List (String × Node)}
    (h : Assoc.Distinct fs) (ds : List (String × Json)) :
    Assoc.Distinct (mergeFields s fs ds) := by
  rw [mergeFields_eq_foldl]
  exact Assoc.foldl_keeps (p := Assoc.Distinct) (fun fs e h => distinct_setField h _) ds h

/-- What a merge does to a field is decided by the diff of that field alone. -/
theorem find?_mergeFields (s : Stamp) {ds : List (String × Json)}
    {fs : List (String × Node)} (hds : Assoc.Distinct ds) (hfs : Assoc.Distinct fs)
    (key : String) :
    Assoc.find? key (mergeFields s fs ds) =
      (Assoc.find? key ds).elim (Assoc.find? key fs) (merge s (Assoc.find? key fs)) := by
  rw [mergeFields_eq_foldl]
  refine Assoc.find?_foldl (p := Assoc.Distinct) ?_ ?_ ?_ hds hfs key
  · exact fun fs e h => distinct_setField h _
  · exact fun fs e h => find?_setField_self h _
  · exact fun fs e key h => find?_setField_of_ne h fs _

theorem tidy_empty : Node.empty.Tidy := ⟨List.nodup_nil, trivial⟩

theorem tidy_base {old : Option Node} (h : ∀ n, old = some n → n.Tidy) : (base old).Tidy := by
  cases old with
  | none => exact tidy_empty
  | some n => exact h n rfl

/-- A diff that is neither null nor an object becomes a leaf. -/
theorem merge_scalar {d : Json} (hnull : d.isNull = false) (hobj : d.isObject = false)
    (s : Stamp) (old : Option Node) : merge s old d = some (s.overwrite d old) := by
  cases d with
  | null => cases hnull
  | obj ms => cases hobj
  | bool b => rfl
  | num n => rfl
  | str t => rfl
  | arr xs => rfl

end Node

theorem Stamp.overwrite_leaf (s : Stamp) (v : Json) (old : Option Node) :
    ∃ w c, s.overwrite v old = .leaf w c ∧ w.same v = true ∧
      (w = v ∨ ∃ c, old = some (.leaf w c)) := by
  match old with
  | none => exact ⟨v, none, rfl, v.same_refl, .inl rfl⟩
  | some (.object kind fs) => exact ⟨v, _, rfl, v.same_refl, .inl rfl⟩
  | some (.leaf current change) =>
    by_cases hsame : current.same v = true
    · exact ⟨current, change, by simp [Stamp.overwrite, hsame], hsame, .inr ⟨change, rfl⟩⟩
    · by_cases htrack : s.track = true
      · refine ⟨v, s.change? current, ?_, v.same_refl, .inl rfl⟩
        simp [Stamp.overwrite, hsame, htrack]
      · refine ⟨v, change, ?_, v.same_refl, .inl rfl⟩
        simp [Stamp.overwrite, hsame, htrack]

namespace Node

theorem tidy_merge (s : Stamp) (d : Json) (hd : d.Canonical) (old : Option Node)
    (hold : ∀ n, old = some n → n.Tidy) : ∀ n, merge s old d = some n → n.Tidy := by
  induction d using Json.members_rec generalizing old with
  | obj ds ih =>
    rintro n ⟨rfl⟩
    have hbase := tidy_base hold
    refine tidy_object (distinct_mergeFields s hbase.fields_distinct ds) ?_
    intro key m hm
    rw [find?_mergeFields s (Assoc.distinct_of_ascending hd.1) hbase.fields_distinct] at hm
    cases hfound : Assoc.find? key ds with
    | none =>
      rw [hfound] at hm
      exact hbase.field hm
    | some d =>
      rw [hfound] at hm
      exact ih key d hfound (Json.canonical_of_find? hd.2 hfound) _
        (fun n hn => hbase.field hn) m hm
  | other d hobj =>
    intro n hn
    by_cases hnull : d.isNull = true
    · cases d with
      | null => cases hn
      | _ => cases hnull
    · rw [merge_scalar (by simpa using hnull) hobj] at hn
      obtain ⟨w, c, hw, -, hor⟩ := s.overwrite_leaf d old
      obtain rfl : Node.leaf w c = n := by simpa [hw] using hn
      rcases hor with rfl | ⟨c', hleaf⟩
      · exact hobj
      · exact show w.isObject = false from hold (.leaf w c') hleaf

/-- Both sides hold equal members, since each is decided by the diff of its own name. -/
theorem toJson_merge (s : Stamp) (d : Json) (hd : d.Canonical) (old : Option Node)
    (hold : ∀ n, old = some n → n.Tidy) :
    Json.SameFound ((merge s old d).map toJson) (Json.patched? (old.map toJson) d) := by
  induction d using Json.members_rec generalizing old with
  | obj ds ih =>
    have hbase := tidy_base hold
    have hmerged := distinct_mergeFields s hbase.fields_distinct ds
    have hnames := ascending_members_toJson hbase
    have hds := Assoc.distinct_of_ascending hd.1
    have hstart : ((old.map toJson).getD (.obj [])).members = (base old).toJson.members := by
      cases old <;> rfl
    refine .some ?_
    change Json.sameMembers (Assoc.ofListSorted (toMembers (mergeFields s (base old).fields ds)))
      (Json.patchMembers ((old.map toJson).getD (.obj [])).members ds) = true
    rw [hstart]
    refine (Json.sameMembers_iff (Assoc.ascending_ofListSorted _)
      (Json.ascending_patchMembers hnames ds)).mpr ?_
    intro key
    have hsorted : Assoc.find? key (Assoc.ofListSorted
        (toMembers (mergeFields s (base old).fields ds))) =
        (Assoc.find? key (mergeFields s (base old).fields ds)).map toJson := by
      rw [← find?_toMembers]
      exact Assoc.find?_ofListSorted (by rwa [Assoc.Distinct, keys_toMembers]) key
    rw [hsorted, find?_mergeFields s hds hbase.fields_distinct,
      Json.find?_patchMembers hds hnames, find?_members_toJson hbase]
    cases hfound : Assoc.find? key ds with
    | none => exact Json.SameFound.refl _
    | some d =>
      exact ih key d hfound (Json.canonical_of_find? hd.2 hfound) _ (fun n hn => hbase.field hn)
  | other d hobj =>
    by_cases hnull : d.isNull = true
    · cases d with
      | null => exact .none
      | _ => cases hnull
    · obtain ⟨w, c, hw, hsame, -⟩ := s.overwrite_leaf d old
      rw [merge_scalar (by simpa using hnull) hobj, hw, Json.patched?, if_neg hnull,
        if_neg (by simp [hobj])]
      exact .some hsame

theorem bind_get?_cons (old : Option Node) (key : String) (path : Path) :
    old.bind (get? (key :: path)) = ((base old).field? key).bind (get? path) := by
  cases old <;> rfl

/-- A diff that is no object leaves nothing or a leaf. -/
theorem merge_other (s : Stamp) (old : Option Node) {d : Json} (hobj : d.isObject = false) :
    merge s old d = none ∨ ∃ w c, merge s old d = some (.leaf w c) := by
  cases hnull : d.isNull with
  | true =>
    cases d with
    | null => exact .inl rfl
    | _ => cases hnull
  | false =>
    obtain ⟨w, c, hw, -, -⟩ := s.overwrite_leaf d old
    exact .inr ⟨w, c, (merge_scalar hnull hobj s old).trans (congrArg some hw)⟩

theorem bind_get?_merge_other (s : Stamp) (old : Option Node) {d : Json}
    (hobj : d.isObject = false) (key : String) (path : Path) :
    (merge s old d).bind (get? (key :: path)) = none := by
  rcases merge_other s old hobj with hgone | ⟨w, c, hleaf⟩
  · rw [hgone]
    rfl
  · rw [hleaf]
    rfl

/-- What a merge leaves at a path: the merge of what the diff has for it, nothing where the
diff ends above it, and otherwise what was there before, changes included. -/
theorem get?_merge_at (s : Stamp) (path : Path) {d : Json} (hd : d.Canonical)
    (old : Option Node) (hold : ∀ n, old = some n → n.Tidy) :
    (merge s old d).bind (get? path) =
      match d.at? path with
      | some e => merge s (old.bind (get? path)) e
      | none => if d.reaches path then none else old.bind (get? path) := by
  induction path generalizing d old with
  | nil =>
    have hroot : ∀ n : Option Node, n.bind (get? []) = n := fun n => by cases n <;> rfl
    simp only [hroot, Json.at?]
  | cons key path ih =>
    cases hobj : d.isObject with
    | false =>
      rw [bind_get?_merge_other s old hobj, Json.at?_cons_other hobj, Json.reaches_other hobj]
      rfl
    | true =>
      obtain ⟨ds, rfl⟩ := Json.eq_obj_of_isObject hobj
      have hbase := tidy_base hold
      have hfield : (merge s old (.obj ds)).bind (get? (key :: path)) =
          ((Assoc.find? key ds).elim ((base old).field? key)
            (merge s ((base old).field? key))).bind (get? path) :=
        congrArg (Option.bind · (get? path))
          (find?_mergeFields s (Assoc.distinct_of_ascending hd.1) hbase.fields_distinct key)
      rw [hfield, bind_get?_cons, Json.at?_obj_cons]
      cases hfound : Assoc.find? key ds with
      | none => simp [Json.reaches, hfound]
      | some e =>
        have hbelow := ih (Json.canonical_of_find? hd.2 hfound) ((base old).field? key)
          (fun n hn => hbase.field hn)
        simpa [Json.reaches, hfound] using hbelow

/-- What a diff does not reach stays the same node, changes included. -/
theorem get?_merge (s : Stamp) (path : Path) {d : Json} (hd : d.Canonical) {n m : Node}
    (hn : n.Tidy) (hm : merge s (some n) d = some m) (hpath : d.reaches path = false) :
    m.get? path = n.get? path := by
  have hat := get?_merge_at s path hd (some n) (by rintro _ ⟨rfl⟩; exact hn)
  rw [hm, Json.at?_of_not_reaches path hpath] at hat
  simpa [hpath] using hat

end Node

namespace Snapshot

/-- What snapshots come from: an empty one or a whole value, and merges. -/
inductive Reachable : Snapshot → Prop
  | empty (track : Bool) : Reachable (.empty track)
  | ofJson (track : Bool) {v : Json} (hv : v.Canonical) : Reachable (.ofJson track v)
  | merge (now : Int) {d : Json} (hd : d.Canonical) {s : Snapshot} (hs : Reachable s) :
      Reachable (s.merge now d)

theorem merge_obj (now : Int) (ms : List (String × Json)) (s : Snapshot) :
    s.merge now (.obj ms) =
      { root := .object ((NodeKind.ofMarkers? ms).getD s.root.kind)
          (Node.mergeFields ⟨s.track, now⟩ s.root.fields ms)
        parents := Parents.mergeMembers ((NodeKind.ofMarkers? ms).getD s.root.kind) []
          s.root.fields (if s.root.isObject then s.parents else []) ms
        track := s.track } := rfl

theorem root_merge (now : Int) {d : Json} (hobj : d.isObject = true) (s : Snapshot) :
    Node.merge ⟨s.track, now⟩ (some s.root) d = some (s.merge now d).root := by
  cases d with
  | obj ds => rfl
  | _ => cases hobj

theorem merge_of_not_object (now : Int) {d : Json} (hobj : d.isObject = false) (s : Snapshot) :
    s.merge now d = s := by
  cases d with
  | obj ds => cases hobj
  | _ => rfl

theorem Reachable.tidy {s : Snapshot} (h : s.Reachable) : s.root.Tidy := by
  induction h with
  | empty track => exact Node.tidy_empty
  | ofJson track hv => exact Node.tidy_ofJson _ hv
  | @merge now d hd s hs ih =>
    by_cases hobj : d.isObject = true
    · refine Node.tidy_merge ⟨s.track, now⟩ d hd (some s.root) ?_ _ (root_merge now hobj s)
      rintro n ⟨rfl⟩
      exact ih
    · rw [merge_of_not_object now (by simpa using hobj)]
      exact ih

/-- Merging a diff patches the value, and no path that the diff does not reach
changes its value. -/
theorem merge_patches {s : Snapshot} (hs : s.Reachable) {d : Json} (hd : d.Canonical)
    (now : Int) :
    (s.merge now d).toJson.same (s.toJson.patch d) = true ∧
      ∀ path, d.reaches path = false →
        (s.merge now d).toJson.at? path = s.toJson.at? path := by
  by_cases hobj : d.isObject = true
  · have hroot := root_merge now hobj s
    constructor
    · have hsame := Node.toJson_merge ⟨s.track, now⟩ d hd (some s.root)
        (by rintro n ⟨rfl⟩; exact hs.tidy)
      rw [hroot] at hsame
      cases d with
      | obj ds =>
        rcases hsame with ⟨h⟩
        exact h
      | _ => cases hobj
    · intro path hpath
      rw [toJson, toJson, Node.at?_toJson path (hs.merge now hd).tidy,
        Node.at?_toJson path hs.tidy, Node.get?_merge _ path hd hs.tidy hroot hpath]
  · rw [merge_of_not_object now (by simpa using hobj)]
    refine ⟨?_, fun path hpath => rfl⟩
    cases d with
    | obj ds => exact absurd rfl hobj
    | _ => exact Json.same_refl _

/-- A scalar gives way to an object, in which null deletes nothing, and the field
beside it keeps its value. -/
theorem merge_patches_scalar :
    let s := Snapshot.ofJson true (.obj [("a", .str "old"), ("b", .arr [.null])])
    let d := Json.obj [("a", .obj [("x", .null), ("y", .bool true)])]
    (s.merge 0 d).toJson.same (.obj [("a", .obj [("y", .bool true)]), ("b", .arr [.null])]) = true ∧
      (s.merge 0 d).toJson.at? ["b"] = some (.arr [.null]) := by
  intro s d
  have reachable : s.Reachable := .ofJson true ⟨by decide, trivial, ⟨trivial, trivial⟩, trivial⟩
  have canonical : d.Canonical := ⟨by decide, ⟨by decide, trivial, trivial, trivial⟩, trivial⟩
  have unreached : d.reaches ["b"] = false := by simp [d, Json.reaches, Assoc.find?]
  obtain ⟨same, keep⟩ := merge_patches reachable canonical 0
  exact ⟨same, keep ["b"] unreached⟩

end Snapshot

end TopicClient
