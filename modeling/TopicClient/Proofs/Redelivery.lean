import TopicClient.Snapshot.ListView
import TopicClient.Proofs.ParentIndex

/-!
# A diff delivered again

A diff that is merged a second time right after the first changes nothing, whenever that
is: every value, field, kind, parent and list stays as it is, and every change keeps what
it tells and its time.
-/

namespace TopicClient

theorem NodeKind.ofMarkers?_getD_again (ms : List (String × Json)) (kind : NodeKind) :
    (ofMarkers? ms).getD ((ofMarkers? ms).getD kind) = (ofMarkers? ms).getD kind := by
  cases ofMarkers? ms <;> rfl

namespace Node

theorem kind_object (kind : NodeKind) (fs : List (String × Node)) :
    (object kind fs).kind = kind := rfl

theorem fields_object (kind : NodeKind) (fs : List (String × Node)) :
    (object kind fs).fields = fs := rfl

theorem isObject_object (kind : NodeKind) (fs : List (String × Node)) :
    (object kind fs).isObject = true := rfl

theorem setField_find? (key : String) (fs : List (String × Node)) :
    setField key fs (Assoc.find? key fs) = fs := by
  cases hfound : Assoc.find? key fs with
  | none => exact Assoc.erase_of_not_mem (Assoc.find?_eq_none_iff.mp hfound)
  | some n => exact Assoc.put_of_find? hfound

/-- The fields that a diff names have become what it makes of them. -/
def Taken (s : Stamp) (ms : List (String × Json)) (before after : List (String × Node)) : Prop :=
  ∀ key d, Assoc.find? key ms = some d →
    Assoc.find? key after = merge s (Assoc.find? key before) d

theorem taken_mergeFields (s : Stamp) {ms : List (String × Json)} {fs : List (String × Node)}
    (hms : Assoc.Distinct ms) (hfs : Assoc.Distinct fs) :
    Taken s ms fs (mergeFields s fs ms) := by
  intro key d hfound
  rw [find?_mergeFields s hms hfs, hfound]
  rfl

section Taken
variable {s : Stamp} {key : String} {d : Json} {ms : List (String × Json)}
  {before after : List (String × Node)}

theorem Taken.head (h : Taken s ((key, d) :: ms) before after) :
    Assoc.find? key after = merge s (Assoc.find? key before) d :=
  h key d (by simp [Assoc.find?])

theorem Taken.tail (h : Taken s ((key, d) :: ms) before after) (fresh : key ∉ Assoc.keys ms) :
    Taken s ms before after := by
  intro k d' hfound
  have hne : ¬ key = k := by
    rintro rfl
    exact fresh (Assoc.find?_isSome_iff.mp (by simp [hfound]))
  exact h k d' (by simpa [Assoc.find?, hne] using hfound)

end Taken

mutual

/-- A node keeps what it has taken from a diff, and the changes that it has recorded. -/
theorem merge_again (s t : Stamp) (d : Json) (hd : d.Canonical) {old : Option Node}
    (hold : ∀ n, old = some n → n.Tidy) : merge t (merge s old d) d = merge s old d := by
  cases d with
  | obj ms =>
    have hbase := tidy_base hold
    have hms := Assoc.distinct_of_ascending hd.1
    have hfields := mergeFields_again s t ms hd.2 hms (fun key n hn => hbase.field hn)
      (taken_mergeFields s hms hbase.fields_distinct)
    have hkind := NodeKind.ofMarkers?_getD_again ms (base old).kind
    exact congrArg some (congrArg₂ object hkind hfields)
  | null => rfl
  | _ =>
    obtain ⟨w, c, hw, hsame, -⟩ := s.overwrite_leaf _ old
    rw [merge_scalar rfl rfl, merge_scalar rfl rfl, hw]
    simp [Stamp.overwrite, hsame]
termination_by structural d

theorem mergeFields_again (s t : Stamp) (ms : List (String × Json))
    (hms : Json.CanonicalMembers ms) (hnames : Assoc.Distinct ms)
    {before after : List (String × Node)}
    (hbefore : ∀ key n, Assoc.find? key before = some n → n.Tidy)
    (taken : Taken s ms before after) : mergeFields t after ms = after := by
  match ms with
  | [] => rfl
  | (key, d) :: ms =>
    obtain ⟨fresh, hrest⟩ := Assoc.distinct_cons.mp hnames
    have hfirst : merge t (Assoc.find? key after) d = Assoc.find? key after := by
      rw [taken.head]
      exact merge_again s t d hms.1 (hbefore key)
    rw [mergeFields, hfirst, setField_find?]
    exact mergeFields_again s t ms hms.2 hrest hbefore (taken.tail fresh)
termination_by structural ms

end

end Node

namespace Parents

mutual

/-- The second merge finds in the index what the first has left below the child. What may
have happened to the index elsewhere does not matter. -/
theorem merge_again (s : Stamp) (kind : NodeKind) (container : Path) (key : String) (d : Json)
    (hd : d.Canonical) {old : Option Node} (hold : ∀ n, old = some n → n.Tidy) {ps qs : Parents}
    (hps : Assoc.Distinct ps)
    (hqs : ∀ place, container ++ [key] <+: place →
      Assoc.find? place qs = Assoc.find? place (merge kind container key old ps d)) :
    merge kind container key (Node.merge s old d) qs d = qs := by
  cases d with
  | obj ms =>
    have hbase := Node.tidy_base hold
    have hms := Assoc.distinct_of_ascending hd.1
    have hrecorded : Assoc.find? (container ++ [key]) qs = parentIn? kind container := by
      refine (hqs _ List.prefix_rfl).trans ?_
      refine (find?_mergeMembers_apart _ (Node.base old).fields _ ?_).trans
        (find?_record_self hps kind container key)
      exact fun k _ => not_extended_prefix _ k
    have hdistinct : Assoc.Distinct (record kind container key ps) :=
      (Edited.refl.record kind List.prefix_rfl).distinct hps
    change mergeMembers ((NodeKind.ofMarkers? ms).getD ((NodeKind.ofMarkers? ms).getD
        (Node.base old).kind)) (container ++ [key]) (Node.mergeFields s (Node.base old).fields ms)
      (record kind container key qs) ms = qs
    rw [NodeKind.ofMarkers?_getD_again, record_of_find? hrecorded]
    refine mergeMembers_again s _ _ ms hd.2 hms (fun k n hn => hbase.field hn)
      (Node.taken_mergeFields s hms hbase.fields_distinct) hdistinct ?_
    exact fun k _ place hplace => hqs place ((List.prefix_append _ _).trans hplace)
  | null => rfl
  | _ =>
    obtain ⟨w, c, hw, -, -⟩ := s.overwrite_leaf _ old
    rw [Node.merge_scalar rfl rfl, hw]
    rfl
termination_by structural d

theorem mergeMembers_again (s : Stamp) (kind : NodeKind) (path : Path)
    (ms : List (String × Json)) (hms : Json.CanonicalMembers ms) (hnames : Assoc.Distinct ms)
    {before after : List (String × Node)}
    (hbefore : ∀ key n, Assoc.find? key before = some n → n.Tidy)
    (taken : Node.Taken s ms before after) {ps qs : Parents} (hps : Assoc.Distinct ps)
    (hqs : ∀ key ∈ Assoc.keys ms, ∀ place, path ++ [key] <+: place →
      Assoc.find? place qs = Assoc.find? place (mergeMembers kind path before ps ms)) :
    mergeMembers kind path after qs ms = qs := by
  match ms with
  | [] => rfl
  | (key, d) :: ms =>
    obtain ⟨fresh, hrest⟩ := Assoc.distinct_cons.mp hnames
    -- The later members are apart from the first, so it still finds its own entries.
    have hown : ∀ place, path ++ [key] <+: place → Assoc.find? place qs =
        Assoc.find? place (merge kind path key (Assoc.find? key before) ps d) := by
      intro place hplace
      rw [hqs key List.mem_cons_self place hplace, mergeMembers]
      refine find?_mergeMembers_apart kind before _ fun k hk => not_prefix_of_ne ?_ hplace
      rintro rfl
      exact fresh hk
    rw [mergeMembers, taken.head, merge_again s kind path key d hms.1 (hbefore key) hps hown]
    have hdistinct := (edited_merge kind path key (Assoc.find? key before) ps d).distinct hps
    exact mergeMembers_again s kind path ms hms.2 hrest hbefore (taken.tail fresh) hdistinct
      fun k hk place hplace => hqs k (List.mem_cons_of_mem _ hk) place hplace
termination_by structural ms

end

end Parents

namespace Snapshot

theorem merge_again {s : Snapshot} (hs : s.Reachable) {d : Json} (hd : d.Canonical)
    (now later : Int) : (s.merge now d).merge later d = s.merge now d := by
  cases d with
  | obj ms =>
    have hms := Assoc.distinct_of_ascending hd.1
    have hfields : ∀ key n, Assoc.find? key s.root.fields = some n → n.Tidy :=
      fun key n hn => hs.tidy.field hn
    have taken := Node.taken_mergeFields ⟨s.track, now⟩ hms hs.tidy.fields_distinct
    have hstart : Assoc.Distinct (if s.root.isObject then s.parents else []) := by
      split
      · exact hs.parents_distinct
      · exact List.nodup_nil
    have hparents := Parents.mergeMembers_again _ ((NodeKind.ofMarkers? ms).getD s.root.kind) []
      ms hd.2 hms hfields taken hstart fun key _ place _ => rfl
    rw [merge_obj now, merge_obj later]
    simp only [Node.kind_object, Node.fields_object, Node.isObject_object, if_true,
      NodeKind.ofMarkers?_getD_again, hparents,
      Node.mergeFields_again _ ⟨s.track, later⟩ ms hd.2 hms hfields taken]
  | _ => rfl

/-- Merging a diff again, right after it and at any time, leaves the snapshot and the lists
that are known as they are. -/
theorem merge_redelivered {g : Gallery} (hg : g.snapshot.Reachable) {d : Json}
    (hd : d.Canonical) (now later : Int) : (g.merge now d).merge later d = g.merge now d := by
  have hsnapshot := merge_again hg hd now later
  simp only [Gallery.merge, hsnapshot]
  by_cases hobj : d.isObject = true
  · simp [hobj, List.filter_filter]
  · simp [hobj]

/-- A root that becomes a map, an object that becomes a leaf, a leaf that becomes an object
and a field that goes. The change of the new leaf keeps the time of the first merge. -/
theorem merge_redelivered_flips :
    let s := ofJson true (.obj [("a", .obj [("x", .bool true)]), ("b", .str "old"),
      ("c", .arr [])])
    let g := ((Gallery.ofSnapshot s).list []).2
    let d := Json.obj [("_isMap", .bool true), ("a", .str "new"), ("b", .obj [("y", .null)]),
      ("c", .null)]
    g.snapshot.Reachable ∧ d.Canonical ∧ (g.merge 1 d).merge 2 d = g.merge 1 d ∧
      ((g.merge 1 d).merge 2 d).snapshot.change? ["a"] =
        some ⟨.obj [("x", .bool true)], 1⟩ := by
  intro s g d
  have reachable : g.snapshot.Reachable :=
    .ofJson true ⟨by decide, ⟨by decide, trivial, trivial⟩, trivial, trivial, trivial⟩
  have canonical : d.Canonical :=
    ⟨by decide, trivial, trivial, ⟨by decide, trivial, trivial⟩, trivial, trivial⟩
  have again := merge_redelivered reachable canonical 1 2
  refine ⟨reachable, canonical, again, ?_⟩
  rw [again]
  rfl

end Snapshot

end TopicClient
