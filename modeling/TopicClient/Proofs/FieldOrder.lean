import TopicClient.Proofs.Provenance

/-!
# The order of fields

A merge moves no field. Of the fields of an object those that stay keep their order, and the
new ones follow in the order of their names. An object that a diff creates lists all its
fields in that order.
-/

namespace TopicClient

/-- Of the keys before, those that are still there keep their order; then come the new ones,
in ascending order. -/
def KeepsOrder (before after : List String) : Prop :=
  ∃ new, after = before.filter (· ∈ after) ++ new ∧ (∀ key ∈ new, key ∉ before) ∧
    new.Pairwise (· < ·)

theorem KeepsOrder.refl (keys : List String) : KeepsOrder keys keys := by
  refine ⟨[], ?_, nofun, .nil⟩
  rw [List.append_nil, List.filter_eq_self.mpr fun key hkey => decide_eq_true hkey]

/-- Where nothing was, all keys are new. -/
theorem KeepsOrder.ascending {after : List String} (h : KeepsOrder [] after) :
    after.Pairwise (· < ·) := by
  obtain ⟨new, hafter, -, hnew⟩ := h
  rw [List.filter_nil, List.nil_append] at hafter
  rwa [hafter]

namespace Json

/-- An object with these members, read as a diff, deletes the field. -/
def deletes (ds : List (String × Json)) (key : String) : Bool :=
  ((Assoc.find? key ds).map isNull).getD false

section Deletes
variable {key k : String} {ds : List (String × Json)}

theorem deletes_self (key : String) (d : Json) (ds : List (String × Json)) :
    deletes ((key, d) :: ds) key = d.isNull := by
  simp [deletes, Assoc.find?]

theorem deletes_of_ne (h : k ≠ key) (d : Json) (ds : List (String × Json)) :
    deletes ((key, d) :: ds) k = deletes ds k := by
  simp [deletes, Assoc.find?, Ne.symm h]

theorem deletes_of_not_mem (h : key ∉ Assoc.keys ds) : deletes ds key = false := by
  simp [deletes, Assoc.find?_eq_none_iff.mpr h]

end Deletes

theorem canonical_at? (path : Path) {v w : Json} (hv : v.Canonical)
    (h : v.at? path = some w) : w.Canonical := by
  induction path generalizing v with
  | nil =>
    obtain rfl : v = w := Option.some.inj h
    exact hv
  | cons key path ih =>
    cases v with
    | obj ms =>
      obtain ⟨m, hm, hw⟩ := Option.bind_eq_some_iff.mp h
      exact ih (canonical_of_find? hv.2 hm) hw
    | _ => cases h

end Json

namespace Node

theorem merge_isSome (s : Stamp) (old : Option Node) (d : Json) :
    (merge s old d).isSome = !d.isNull := by
  cases d <;> rfl

/-- The fields that are not deleted stay where they are, and the new ones follow in the order
of the diff. -/
theorem keys_mergeFields (s : Stamp) {ds : List (String × Json)} {fs : List (String × Node)}
    (hds : Assoc.Distinct ds) (hfs : Assoc.Distinct fs) :
    Assoc.keys (mergeFields s fs ds) =
      (Assoc.keys fs).filter (fun k => !Json.deletes ds k) ++
        (Assoc.keys ds).filter fun k => !Json.deletes ds k && decide (k ∉ Assoc.keys fs) := by
  induction ds generalizing fs with
  | nil => simp [mergeFields, Json.deletes, Assoc.find?]
  | cons e ds ih =>
    obtain ⟨key, d⟩ := e
    obtain ⟨fresh, hrest⟩ := Assoc.distinct_cons.mp hds
    have hlater : ∀ k ∈ Assoc.keys ds, k ≠ key := by
      rintro k hk rfl
      exact fresh hk
    have hsome := merge_isSome s (Assoc.find? key fs) d
    rw [mergeFields, ih hrest (distinct_setField hfs _), Assoc.keys_cons, List.filter_cons,
      Json.deletes_self]
    -- A deleted field leaves the old keys; one that is set stays in its place or becomes the
    -- first of the new.
    cases hmerged : merge s (Assoc.find? key fs) d with
    | none =>
      have hnull : d.isNull = true := by simpa [hmerged] using hsome.symm
      rw [setField, Assoc.keys_erase, List.Nodup.erase_eq_filter hfs, List.filter_filter]
      simp only [hnull]
      refine congrArg₂ (· ++ ·) (List.filter_congr ?_) (List.filter_congr ?_)
      · intro k hk
        by_cases hkey : k = key
        · simp [hkey, Json.deletes_self, hnull]
        · simp [hkey, Json.deletes_of_ne hkey]
      · intro k hk
        have hne := hlater k hk
        simp [hne, Json.deletes_of_ne hne]
    | some n =>
      have hstays : d.isNull = false := by simpa [hmerged] using hsome.symm
      have hrule : ∀ k, Json.deletes ((key, d) :: ds) k = Json.deletes ds k := by
        intro k
        by_cases hkey : k = key
        · rw [hkey, Json.deletes_self, hstays, Json.deletes_of_not_mem fresh]
        · exact Json.deletes_of_ne hkey d ds
      simp only [setField, Assoc.keys_put, hrule, hstays]
      by_cases hmem : key ∈ Assoc.keys fs
      · simp [hmem]
      · rw [if_neg hmem, List.filter_append, List.append_assoc]
        simp only [List.filter_singleton, Json.deletes_of_not_mem fresh, hmem]
        refine congrArg (_ ++ key :: ·) (List.filter_congr ?_)
        intro k hk
        simp [hlater k hk]

theorem keepsOrder_mergeFields (s : Stamp) {ds : List (String × Json)}
    {fs : List (String × Node)} (hds : Assoc.Ascending ds) (hfs : Assoc.Distinct fs) :
    KeepsOrder (Assoc.keys fs) (Assoc.keys (mergeFields s fs ds)) := by
  have hkeys := keys_mergeFields s (Assoc.distinct_of_ascending hds) hfs
  refine ⟨(Assoc.keys ds).filter fun k => !Json.deletes ds k && decide (k ∉ Assoc.keys fs),
    hkeys.trans ?_, ?_, hds.filter _⟩
  · refine congrArg (· ++ _) (List.filter_congr ?_)
    intro k hk
    simp [hkeys, hk]
  · intro k hk
    simp only [List.mem_filter, Bool.and_eq_true, decide_eq_true_eq] at hk
    exact hk.2.2

/-- An object at a path was there before, just so, or the diff has an object for it. -/
theorem object_merge (s : Stamp) (path : Path) {d : Json} (hd : d.Canonical)
    {old : Option Node} (hold : ∀ n, old = some n → n.Tidy) {m : Node}
    (hm : merge s old d = some m) {kind : NodeKind} {fs : List (String × Node)}
    (hobject : m.get? path = some (.object kind fs)) :
    old.bind (get? path) = some (.object kind fs) ∨
      ∃ ds, d.at? path = some (.obj ds) ∧
        fs = mergeFields s (base (old.bind (get? path))).fields ds := by
  have hat := get?_merge_at s path hd old hold
  rw [hm, Option.bind_some, hobject] at hat
  cases hnamed : d.at? path with
  | some e =>
    rw [hnamed] at hat
    rcases merge_cases hat.symm with ⟨ds, rfl, hmerged⟩ | ⟨-, hover⟩
    · exact .inr ⟨ds, rfl, (object.inj hmerged).2⟩
    · obtain ⟨w, c, hw, -, -⟩ := s.overwrite_leaf e (old.bind (get? path))
      rw [hw] at hover
      cases hover
  | none =>
    cases hreach : d.reaches path with
    | true => simp [hnamed, hreach] at hat
    | false => exact .inl (by simpa [hnamed, hreach] using hat.symm)

end Node

namespace Snapshot

/-- The fields of what is at a path, of which a leaf and nothing have none. -/
def fieldsAt (path : Path) (s : Snapshot) : List (String × Node) :=
  ((s.get? path).map Node.fields).getD []

theorem keepsOrder_merge {s : Snapshot} (hs : s.Reachable) {d : Json} (hd : d.Canonical)
    (now : Int) (path : Path) {kind : NodeKind} {fs : List (String × Node)}
    (hafter : (s.merge now d).get? path = some (.object kind fs)) :
    KeepsOrder (Assoc.keys (s.fieldsAt path)) (Assoc.keys fs) := by
  cases hobj : d.isObject with
  | false =>
    rw [merge_of_not_object now hobj] at hafter
    rw [fieldsAt, hafter]
    exact .refl _
  | true =>
    have htidy : ∀ n, some s.root = some n → n.Tidy := by
      rintro n ⟨rfl⟩
      exact hs.tidy
    rcases Node.object_merge ⟨s.track, now⟩ path hd htidy (root_merge now hobj s) hafter with
      hsame | ⟨ds, hds, rfl⟩
    · rw [fieldsAt, show s.get? path = _ from hsame]
      exact .refl _
    · have hbase : (Node.base (s.get? path)).fields = s.fieldsAt path := by
        rw [fieldsAt]
        cases s.get? path <;> rfl
      have hfields : Assoc.Distinct (s.fieldsAt path) := by
        rw [← hbase]
        exact (Node.tidy_base fun n hn => hs.tidy.get? path hn).fields_distinct
      change KeepsOrder _ (Assoc.keys (Node.mergeFields _ (Node.base (s.get? path)).fields ds))
      rw [hbase]
      exact Node.keepsOrder_mergeFields _ (Json.canonical_at? path hd hds).1 hfields

/-- Field order is insertion order through every merge: an object keeps the order of its
fields that stay, and new fields follow by name; an object in the place of a leaf or of
nothing has all its fields by name. -/
theorem fields_keep_order {s : Snapshot} (hs : s.Reachable) {d : Json} (hd : d.Canonical)
    (now : Int) (path : Path) {kind : NodeKind} {fs : List (String × Node)}
    (hafter : (s.merge now d).get? path = some (.object kind fs)) :
    (∀ kind₀ fs₀, s.get? path = some (.object kind₀ fs₀) →
      KeepsOrder (Assoc.keys fs₀) (Assoc.keys fs)) ∧
    ((∀ kind₀ fs₀, s.get? path ≠ some (.object kind₀ fs₀)) →
      (Assoc.keys fs).Pairwise (· < ·)) := by
  have horder := keepsOrder_merge hs hd now path hafter
  constructor
  · intro kind₀ fs₀ hbefore
    rw [fieldsAt, hbefore] at horder
    exact horder
  · intro hnone
    have hnothing : s.fieldsAt path = [] := by
      rw [fieldsAt]
      cases hbefore : s.get? path with
      | none => rfl
      | some n =>
        cases n with
        | leaf v c => rfl
        | object kind₀ fs₀ => exact absurd hbefore (hnone kind₀ fs₀)
    rw [hnothing] at horder
    exact horder.ascending

/-- A field goes, an object becomes a leaf and a leaf an object, both in their places; the new
field comes last, although its name does not. -/
theorem fields_keep_order_flips :
    let s := ofJson true (.obj [("a", .bool true), ("c", .obj [("x", .null)]), ("d", .str "1")])
    let d := Json.obj [("a", .null), ("b", .arr []), ("c", .str "2"),
      ("d", .obj [("y", .bool true), ("z", .null), ("zz", .bool true)])]
    s.Reachable ∧ d.Canonical ∧
      (∃ kind fs, (s.merge 1 d).get? [] = some (.object kind fs) ∧
        Assoc.keys fs = ["c", "d", "b"] ∧ KeepsOrder ["a", "c", "d"] (Assoc.keys fs)) ∧
      ∃ kind fs, (s.merge 1 d).get? ["d"] = some (.object kind fs) ∧
        Assoc.keys fs = ["y", "zz"] ∧ (Assoc.keys fs).Pairwise (· < ·) := by
  intro s d
  have reachable : s.Reachable :=
    .ofJson true ⟨by decide, trivial, ⟨by decide, trivial, trivial⟩, trivial, trivial⟩
  have canonical : d.Canonical :=
    ⟨by decide, trivial, trivial, trivial, ⟨by decide, trivial, trivial, trivial, trivial⟩,
      trivial⟩
  refine ⟨reachable, canonical, ⟨_, _, rfl, rfl, ?_⟩, _, _, rfl, rfl, ?_⟩
  · exact (fields_keep_order reachable canonical 1 [] rfl).1 _ _ rfl
  · exact (fields_keep_order reachable canonical 1 ["d"] rfl).2 nofun

end Snapshot

end TopicClient
