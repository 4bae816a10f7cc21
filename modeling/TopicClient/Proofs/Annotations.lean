import Mathlib.Data.Option.Basic
import TopicClient.Proofs.Provenance

/-!
# Annotated values

An annotated value shows what the plain one does and, beside every leaf that has changed, one
more member that tells what was there before. The members for fields and for changes share
one object; they take no place from each other unless a field has the name of a change.
-/

namespace TopicClient

namespace Node

/-- The names of the members that tell of changes of these fields. -/
def changeKeys (fs : List (String × Node)) : List String :=
  fs.filterMap fun e => e.2.change?.map fun _ => changeKey e.1

mutual

/-- No object has a field with the name under which the change of one of its leaves is told. -/
def Unambiguous : Node → Prop
  | .leaf _ _ => True
  | .object _ fs => (∀ key ∈ changeKeys fs, key ∉ Assoc.keys fs) ∧ UnambiguousFields fs
termination_by structural n => n

def UnambiguousFields : List (String × Node) → Prop
  | [] => True
  | (_, n) :: fs => n.Unambiguous ∧ UnambiguousFields fs
termination_by structural fs => fs

end

mutual

/-- A value without the members that tell of the changes of a tree. -/
def bare : Node → Json → Json
  | .leaf _ _, v => v
  | .object _ fs, v => .obj (bareMembers fs (v.members.filter fun e => e.1 ∉ changeKeys fs))
termination_by structural n => n

def bareMembers : List (String × Node) → List (String × Json) → List (String × Json)
  | [], ms => ms
  | (key, n) :: fs, ms => bareMembers fs (Assoc.modify key (bare n) ms)
termination_by structural fs => fs

end

theorem member?_previous (c : Change) :
    (Change.toJson c).member? "previous" = some c.previous := by
  refine (Assoc.find?_ofListSorted ?_ "previous").trans rfl
  simp [Assoc.Distinct]

theorem changeKey_inj {key other : String} : changeKey key = changeKey other ↔ key = other := by
  simp [changeKey]

theorem mem_changeKeys {key : String} {fs : List (String × Node)} :
    key ∈ changeKeys fs ↔ ∃ e ∈ fs, ∃ c, e.2.change? = some c ∧ key = changeKey e.1 := by
  simp [changeKeys, List.mem_filterMap, eq_comm]

theorem unambiguousFields_iff {fs : List (String × Node)} :
    UnambiguousFields fs ↔ ∀ e ∈ fs, e.2.Unambiguous := by
  induction fs with
  | nil => simp [UnambiguousFields]
  | cons e fs ih => rw [UnambiguousFields, ih, List.forall_mem_cons]

theorem Unambiguous.field {n m : Node} {key : String} (h : n.Unambiguous)
    (hm : n.field? key = some m) : m.Unambiguous := by
  cases n with
  | leaf v c => cases hm
  | object kind fs => exact unambiguousFields_iff.mp h.2 _ (Assoc.mem_of_find? hm)

theorem Unambiguous.get? (path : Path) {n m : Node} (h : n.Unambiguous)
    (hm : n.get? path = some m) : m.Unambiguous := by
  induction path generalizing n with
  | nil =>
    obtain rfl := Option.some.inj hm
    exact h
  | cons key path ih =>
    obtain ⟨child, hchild, hm⟩ := Option.bind_eq_some_iff.mp hm
    exact ih (h.field hchild) hm

/-! ## The members of an annotated object -/

section Members
variable {fs : List (String × Node)}

theorem mem_changeMembers {key : String} {change : Option Change} {m : String × Json} :
    m ∈ changeMembers key change ↔
      ∃ c, change = some c ∧ m = (changeKey key, Change.toJson c) := by
  cases change <;> simp [changeMembers]

/-- Every member shows a field or tells of its change. -/
theorem mem_annotatedMembers {m : String × Json} :
    m ∈ annotatedMembers fs ↔ ∃ e ∈ fs, m = (e.1, e.2.annotated) ∨
      ∃ c, e.2.change? = some c ∧ m = (changeKey e.1, Change.toJson c) := by
  induction fs with
  | nil => simp [annotatedMembers]
  | cons e fs ih =>
    rw [annotatedMembers, List.mem_cons, List.mem_append, ih, mem_changeMembers,
      List.exists_mem_cons_iff, or_assoc]

theorem mem_keys_annotatedMembers {key : String} :
    key ∈ Assoc.keys (annotatedMembers fs) ↔ key ∈ Assoc.keys fs ∨ key ∈ changeKeys fs := by
  rw [mem_changeKeys, Assoc.keys, Assoc.keys, List.mem_map, List.mem_map]
  constructor
  · rintro ⟨m, hm, rfl⟩
    obtain ⟨e, he, rfl | ⟨c, hc, rfl⟩⟩ := mem_annotatedMembers.mp hm
    · exact .inl ⟨e, he, rfl⟩
    · exact .inr ⟨e, he, c, hc, rfl⟩
  · rintro (⟨e, he, rfl⟩ | ⟨e, he, c, hc, rfl⟩)
    · exact ⟨_, mem_annotatedMembers.mpr ⟨e, he, .inl rfl⟩, rfl⟩
    · exact ⟨_, mem_annotatedMembers.mpr ⟨e, he, .inr ⟨c, hc, rfl⟩⟩, rfl⟩

/-- No member takes the place of another: names of changes differ as the fields do. -/
theorem distinct_annotatedMembers (hfs : Assoc.Distinct fs)
    (hclear : ∀ key ∈ changeKeys fs, key ∉ Assoc.keys fs) :
    Assoc.Distinct (annotatedMembers fs) := by
  induction fs with
  | nil => exact List.nodup_nil
  | cons e fs ih =>
    obtain ⟨hfresh, hrest⟩ := Assoc.distinct_cons.mp hfs
    have hown : ∀ c, e.2.change? = some c → changeKey e.1 ∉ Assoc.keys (e :: fs) := by
      intro c hc
      exact hclear _ (mem_changeKeys.mpr ⟨e, List.mem_cons_self, c, hc, rfl⟩)
    have hlater : ∀ key ∈ changeKeys fs, key ∉ Assoc.keys (e :: fs) := by
      intro key hkey
      obtain ⟨d, hd, c, hc, rfl⟩ := mem_changeKeys.mp hkey
      exact hclear _ (mem_changeKeys.mpr ⟨d, List.mem_cons_of_mem e hd, c, hc, rfl⟩)
    have htail : Assoc.Distinct (annotatedMembers fs) :=
      ih hrest fun key hkey hmem => hlater key hkey (List.mem_cons_of_mem _ hmem)
    have hkey : e.1 ∉ Assoc.keys (annotatedMembers fs) := by
      rintro hmem
      rcases mem_keys_annotatedMembers.mp hmem with hfield | hchange
      · exact hfresh hfield
      · exact hlater _ hchange List.mem_cons_self
    rw [annotatedMembers]
    cases hc : e.2.change? with
    | none => exact Assoc.distinct_cons.mpr ⟨hkey, htail⟩
    | some c =>
      have hmarker : changeKey e.1 ∉ Assoc.keys (annotatedMembers fs) := by
        intro hmem
        rcases mem_keys_annotatedMembers.mp hmem with hfield | hchange
        · exact hown c hc (List.mem_cons_of_mem _ hfield)
        · obtain ⟨d, hd, -, -, hname⟩ := mem_changeKeys.mp hchange
          rw [changeKey_inj] at hname
          exact hfresh (List.mem_map.mpr ⟨d, hd, hname.symm⟩)
      have hne : e.1 ≠ changeKey e.1 := by
        intro heq
        exact hown c hc (by rw [← heq]; exact List.mem_cons_self)
      refine Assoc.distinct_cons.mpr ⟨?_, Assoc.distinct_cons.mpr ⟨hmarker, htail⟩⟩
      intro hmem
      rcases List.mem_cons.mp hmem with heq | hmem
      · exact hne heq
      · exact hkey hmem

end Members

section Found
variable {kind : NodeKind} {fs : List (String × Node)}

theorem find?_members_annotated (hn : (object kind fs).Tidy) (hu : (object kind fs).Unambiguous)
    (key : String) :
    Assoc.find? key (object kind fs).annotated.members = Assoc.find? key (annotatedMembers fs) :=
  Assoc.find?_ofListSorted (distinct_annotatedMembers hn.1 hu.1) key

theorem find?_of_mem_annotatedMembers (hn : (object kind fs).Tidy)
    (hu : (object kind fs).Unambiguous) {key : String} {w : Json}
    (h : (key, w) ∈ annotatedMembers fs) :
    Assoc.find? key (object kind fs).annotated.members = some w := by
  rw [find?_members_annotated hn hu]
  exact Assoc.find?_of_mem (distinct_annotatedMembers hn.1 hu.1) h

/-- A field shows under its own name. -/
theorem member?_annotated {n m : Node} (hn : n.Tidy) (hu : n.Unambiguous) {key : String}
    (hm : n.field? key = some m) : n.annotated.member? key = some m.annotated := by
  cases n with
  | leaf v c => cases hm
  | object kind fs =>
    exact find?_of_mem_annotatedMembers hn hu
      (mem_annotatedMembers.mpr ⟨_, Assoc.mem_of_find? hm, .inl rfl⟩)

/-- A change is told beside its leaf. -/
theorem member?_changeKey {n m : Node} (hn : n.Tidy) (hu : n.Unambiguous) {key : String}
    {c : Change} (hm : n.field? key = some m) (hc : m.change? = some c) :
    n.annotated.member? (changeKey key) = some (Change.toJson c) := by
  cases n with
  | leaf v c => cases hm
  | object kind fs =>
    exact find?_of_mem_annotatedMembers hn hu
      (mem_annotatedMembers.mpr ⟨_, Assoc.mem_of_find? hm, .inr ⟨c, hc, rfl⟩⟩)

end Found

/-- The fields of a tree are found where they are in its annotated value. -/
theorem at?_annotated (path : Path) {n m : Node} (hn : n.Tidy) (hu : n.Unambiguous)
    (hm : n.get? path = some m) : n.annotated.at? path = some m.annotated := by
  induction path generalizing n with
  | nil =>
    obtain rfl := Option.some.inj hm
    rfl
  | cons key path ih =>
    obtain ⟨child, hchild, hm⟩ := Option.bind_eq_some_iff.mp hm
    rw [Json.at?, member?_annotated hn hu hchild]
    exact ih (hn.field hchild) (hu.field hchild) hm

theorem mem_keys_annotated {kind : NodeKind} {fs : List (String × Node)}
    (hn : (object kind fs).Tidy) (hu : (object kind fs).Unambiguous) {key : String} :
    key ∈ Assoc.keys (object kind fs).annotated.members ↔ key ∈ Assoc.keys fs ∨
      ∃ k c, (Assoc.find? k fs).bind change? = some c ∧ key = changeKey k := by
  rw [← Assoc.find?_isSome_iff, find?_members_annotated hn hu, Assoc.find?_isSome_iff,
    mem_keys_annotatedMembers, mem_changeKeys]
  refine or_congr_right ?_
  constructor
  · rintro ⟨e, he, c, hc, rfl⟩
    refine ⟨e.1, c, ?_, rfl⟩
    rw [Assoc.find?_of_mem hn.1 he]
    exact hc
  · rintro ⟨k, c, hc, rfl⟩
    obtain ⟨m, hm, hc⟩ := Option.bind_eq_some_iff.mp hc
    exact ⟨(k, m), Assoc.mem_of_find? hm, c, hc, rfl⟩

/-! ## Without the members that tell of changes -/

theorem keys_bareMembers (fs : List (String × Node)) (ms : List (String × Json)) :
    Assoc.keys (bareMembers fs ms) = Assoc.keys ms := by
  induction fs generalizing ms with
  | nil => rfl
  | cons e fs ih => rw [bareMembers, ih, Assoc.keys_modify]

theorem find?_bareMembers {fs : List (String × Node)} (hfs : Assoc.Distinct fs) (key : String)
    (ms : List (String × Json)) :
    Assoc.find? key (bareMembers fs ms) =
      (Assoc.find? key ms).map ((Assoc.find? key fs).elim id bare) := by
  induction fs generalizing ms with
  | nil => simp [bareMembers, Assoc.find?]
  | cons e fs ih =>
    obtain ⟨k, n⟩ := e
    obtain ⟨hfresh, hrest⟩ := Assoc.distinct_cons.mp hfs
    rw [bareMembers, ih hrest]
    by_cases hk : k = key
    · subst hk
      simp [Assoc.find?_modify_self, Assoc.find?_eq_none_iff.mpr hfresh, Assoc.find?]
    · rw [Assoc.find?_modify_of_ne (Ne.symm hk)]
      simp [Assoc.find?, hk]

/-- What is left when the names of changes are taken out. -/
theorem find?_filter_changeKeys (fs : List (String × Node)) (key : String)
    (ms : List (String × Json)) :
    Assoc.find? key (ms.filter fun e => e.1 ∉ changeKeys fs) =
      if key ∈ changeKeys fs then none else Assoc.find? key ms := by
  split
  next hmem =>
    exact Assoc.find?_filter_gone (p := fun key => key ∉ changeKeys fs) (by simpa using hmem) ms
  next hmem =>
    exact Assoc.find?_filter (p := fun key => key ∉ changeKeys fs) (by simpa using hmem) ms

/-- An object is bare of its changes as soon as its fields are. -/
theorem bare_object {kind : NodeKind} {fs : List (String × Node)} (hn : (object kind fs).Tidy)
    (hu : (object kind fs).Unambiguous) (hfields : ∀ e ∈ fs, e.2.bare e.2.annotated = e.2.toJson) :
    (object kind fs).bare (object kind fs).annotated = (object kind fs).toJson := by
  have hmembers : Assoc.Ascending (object kind fs).annotated.members :=
    Assoc.ascending_ofListSorted _
  refine congrArg Json.obj (Assoc.eq_of_find? ?_ (Assoc.ascending_ofListSorted _) ?_)
  · rw [Assoc.Ascending, keys_bareMembers]
    exact List.Pairwise.sublist (List.filter_sublist.map _) hmembers
  · intro key
    have hplain : Assoc.find? key (object kind fs).toJson.members =
        (Assoc.find? key fs).map toJson := find?_members_toJson hn key
    rw [find?_bareMembers hn.1, find?_filter_changeKeys]
    refine Eq.trans ?_ hplain.symm
    cases hfound : Assoc.find? key fs with
    | some m =>
      have hkept : key ∉ changeKeys fs := by
        intro hmem
        exact hu.1 key hmem (Assoc.find?_isSome_iff.mp (by rw [hfound]; rfl))
      have hshown : Assoc.find? key (object kind fs).annotated.members = some m.annotated :=
        member?_annotated hn hu hfound
      rw [if_neg hkept, hshown]
      exact congrArg some (hfields _ (Assoc.mem_of_find? hfound))
    | none =>
      have habsent : key ∉ Assoc.keys fs := Assoc.find?_eq_none_iff.mp hfound
      split
      next hmarker => rfl
      next hmarker =>
        have hnone : Assoc.find? key (annotatedMembers fs) = none := by
          rw [Assoc.find?_eq_none_iff, mem_keys_annotatedMembers]
          exact not_or.mpr ⟨habsent, hmarker⟩
        rw [find?_members_annotated hn hu, hnone]
        rfl

mutual

theorem bare_annotated (n : Node) (hn : n.Tidy) (hu : n.Unambiguous) :
    n.bare n.annotated = n.toJson := by
  cases n with
  | leaf v c => rfl
  | object kind fs => exact bare_object hn hu (bare_annotated_fields fs hn.2 hu.2)
termination_by structural n

theorem bare_annotated_fields (fs : List (String × Node)) (hfs : TidyFields fs)
    (hu : UnambiguousFields fs) : ∀ e ∈ fs, e.2.bare e.2.annotated = e.2.toJson := by
  match fs with
  | [] => exact nofun
  | (_, n) :: fs =>
    exact List.forall_mem_cons.mpr
      ⟨bare_annotated n hfs.1 hu.1, bare_annotated_fields fs hfs.2 hu.2⟩
termination_by structural fs

end

/-! ## Without changes -/

mutual

theorem annotated_of_unchanged (n : Node) (hn : n.Tidy)
    (h : ∀ path m, n.get? path = some m → m.change? = none) : n.annotated = n.toJson := by
  match n with
  | .leaf v c => rfl
  | .object kind fs =>
    have hfields : ∀ e ∈ fs, ∀ path m, e.2.get? path = some m → m.change? = none := by
      intro e he path m hm
      refine h (e.1 :: path) m ?_
      have hfound : (object kind fs).field? e.1 = some e.2 := Assoc.find?_of_mem hn.1 he
      rw [get?, hfound]
      exact hm
    exact congrArg Json.object (annotatedMembers_of_unchanged fs hn.2 hfields)
termination_by structural n

theorem annotatedMembers_of_unchanged (fs : List (String × Node)) (hfs : TidyFields fs)
    (h : ∀ e ∈ fs, ∀ path m, e.2.get? path = some m → m.change? = none) :
    annotatedMembers fs = toMembers fs := by
  match fs with
  | [] => rfl
  | (key, n) :: fs =>
    obtain ⟨hn, hrest⟩ := List.forall_mem_cons.mp h
    rw [annotatedMembers, toMembers, hn [] n rfl, annotated_of_unchanged n hfs.1 hn,
      annotatedMembers_of_unchanged fs hfs.2 hrest]
    rfl
termination_by structural fs

end

end Node

namespace Snapshot

/-- Annotation adds and hides nothing else. Unless a field has the name under which the change
of a leaf beside it is told, every leaf shows its value; every object shows its fields and,
for each leaf among them that has changed, one more member, which tells what the leaf was
before; and without these members, at every level, the value is the plain one. With tracking
off there are none. -/
theorem annotated_adds_changes {s : Snapshot} (hs : s.Reachable) :
    (s.root.Unambiguous →
      (∀ path v c, s.get? path = some (.leaf v c) → s.annotated.at? path = some v) ∧
      (∀ path kind fs, s.get? path = some (.object kind fs) →
        ∃ ms, s.annotated.at? path = some (.obj ms) ∧ Assoc.Ascending ms ∧
          ∀ key, key ∈ Assoc.keys ms ↔ key ∈ Assoc.keys fs ∨
            ∃ k c, s.change? (path ++ [k]) = some c ∧ key = Node.changeKey k) ∧
      (∀ path key c, s.change? (path ++ [key]) = some c →
        ∃ w, s.annotated.at? (path ++ [Node.changeKey key]) = some w ∧
          w.member? "previous" = some c.previous) ∧
      s.root.bare s.annotated = s.toJson) ∧
    (s.track = false → s.annotated = s.toJson) := by
  have htidy := hs.tidy
  constructor
  · intro hu
    refine ⟨?_, ?_, ?_, Node.bare_annotated s.root htidy hu⟩
    · intro path v c hleaf
      exact Node.at?_annotated path htidy hu hleaf
    · intro path kind fs hobject
      have hchange : ∀ k, s.change? (path ++ [k]) = (Assoc.find? k fs).bind Node.change? := by
        intro k
        rw [change?, get?, Node.get?_snoc, show s.root.get? path = _ from hobject]
        rfl
      refine ⟨_, Node.at?_annotated path htidy hu hobject, Assoc.ascending_ofListSorted _, ?_⟩
      simp only [hchange]
      intro key
      exact Node.mem_keys_annotated (htidy.get? path hobject) (hu.get? path hobject)
    · intro path key c hchange
      rw [change?, get?, Node.get?_snoc] at hchange
      obtain ⟨leaf, hleaf, hc⟩ := Option.bind_eq_some_iff.mp hchange
      obtain ⟨n, hn, hfield⟩ := Option.bind_eq_some_iff.mp hleaf
      have hshown := Node.at?_annotated path htidy hu hn
      have hmember := Node.member?_changeKey (htidy.get? path hn) (hu.get? path hn) hfield hc
      refine ⟨Node.Change.toJson c, ?_, Node.member?_previous c⟩
      rw [Json.at?_snoc, annotated, hshown]
      exact hmember
  · intro huntracked
    refine Node.annotated_of_unchanged s.root htidy ?_
    intro path m hm
    have hnone := hs.change?_untracked huntracked path
    rw [change?, show s.get? path = some m from hm] at hnone
    exact hnone

/-- A field that has the name of a change, and has changed itself, beside an object whose leaf
is told of under that name. -/
theorem annotated_adds_changes_twice :
    let s := (Snapshot.ofJson true
      (.obj [("_bChange", .str "x"), ("m", .obj [("b", .null)])])).merge 5
        (.obj [("_bChange", .str "y"), ("m", .obj [("b", .bool true)])])
    s.root.Unambiguous ∧ s.annotated.at? ["_bChange"] = some (.str "y") ∧
      (∃ w, s.annotated.at? ["__bChangeChange"] = some w ∧
        w.member? "previous" = some (.str "x")) ∧
      (∃ w, s.annotated.at? ["m", "_bChange"] = some w ∧ w.member? "previous" = some .null) ∧
      s.root.bare s.annotated = s.toJson := by
  intro s
  have first : (Json.obj [("_bChange", .str "x"), ("m", .obj [("b", .null)])]).Canonical :=
    ⟨by decide, trivial, ⟨by decide, trivial, trivial⟩, trivial⟩
  have later : (Json.obj [("_bChange", .str "y"), ("m", .obj [("b", .bool true)])]).Canonical :=
    ⟨by decide, trivial, ⟨by decide, trivial, trivial⟩, trivial⟩
  have reachable : s.Reachable := .merge 5 later (.ofJson true first)
  have unambiguous : s.root.Unambiguous :=
    ⟨by decide, trivial, ⟨by decide, trivial, trivial⟩, trivial⟩
  obtain ⟨shown, -, told, bare⟩ := (annotated_adds_changes reachable).1 unambiguous
  exact ⟨unambiguous, shown ["_bChange"] (.str "y") _ rfl, told [] "_bChange" _ rfl,
    told ["m"] "b" _ rfl, bare⟩

end Snapshot

end TopicClient
