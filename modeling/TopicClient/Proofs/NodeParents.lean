import TopicClient.Proofs.FirstMerge
import TopicClient.Proofs.ToldParents

/-!
# The parents of the nodes

The index has an entry for every object at depth two or more, for nothing but objects below
the root, and each entry tells the container or the container's container. Which of the two
is decided by the kind that the container had when the object was last named by a diff: a
container that changes its kind later leaves behind what was told of its children.
-/

namespace TopicClient

namespace Parents

mutual

/-- Null members have no parents. -/
theorem ofJson_pruned (kind : NodeKind) (container : Path) (key : String) (ps : Parents)
    (v : Json) (h : v.Canonical) :
    ofJson kind container key ps v.pruned = ofJson kind container key ps v := by
  cases v with
  | obj ms =>
    rw [Json.pruned, ofJson, ofJson, NodeKind.ofMarkers?_pruned (Assoc.distinct_of_ascending h.1)]
    exact ofMembers_pruned _ _ _ ms h.2
  | _ => rfl
termination_by structural v

theorem ofMembers_pruned (kind : NodeKind) (path : Path) (ps : Parents)
    (ms : List (String × Json)) (h : Json.CanonicalMembers ms) :
    ofMembers kind path ps (Json.prunedMembers ms) = ofMembers kind path ps ms := by
  match ms with
  | [] => rfl
  | (key, v) :: ms =>
    rw [Json.prunedMembers, ofMembers]
    cases hnull : v.isNull with
    | true =>
      have hself : ofJson kind path key ps v = ps := by
        cases v with
        | null => rfl
        | _ => cases hnull
      rw [if_pos rfl, hself]
      exact ofMembers_pruned kind path ps ms h.2
    | false =>
      rw [if_neg Bool.false_ne_true, ofMembers, ofJson_pruned kind path key ps v h.1]
      exact ofMembers_pruned kind path _ ms h.2
termination_by structural ms

end

end Parents

theorem Node.kindAt?_ofJson_pruned (path : Path) {v : Json} (h : v.Canonical) :
    (ofJson v.pruned).kindAt? path = (ofJson v).kindAt? path := by
  induction path generalizing v with
  | nil =>
    cases v with
    | obj ms =>
      have hkind := NodeKind.ofMarkers?_pruned (Assoc.distinct_of_ascending h.1)
      exact congrArg (fun kind => some (kind.getD NodeKind.struct)) hkind
    | _ => rfl
  | cons key path ih =>
    cases v with
    | obj ms =>
      rw [kindAt?_cons, kindAt?_cons, Json.pruned]
      simp only [field?, ofJson, fields, find?_ofMembers,
        Json.find?_prunedMembers (Assoc.distinct_of_ascending h.1)]
      cases hfound : Assoc.find? key ms with
      | none => rfl
      | some w =>
        cases hnull : w.isNull with
        | true =>
          cases w with
          | null => cases path <;> rfl
          | _ => cases hnull
        | false => simpa [hnull] using ih (Json.canonical_of_find? h.2 hfound)
    | _ => rfl

namespace Snapshot

/-- A whole object has the same objects and parents as if it had been merged into nothing. -/
theorem ofJson_as_merged (track : Bool) {v : Json} (hobj : v.isObject = true)
    (hv : v.Canonical) :
    (ofJson track v).parents = ((empty track).merge 0 v).parents ∧
      ∀ path, (ofJson track v).root.kindAt? path =
        ((empty track).merge 0 v).root.kindAt? path := by
  rw [merge_empty track 0 hobj hv]
  constructor
  · obtain ⟨ms, rfl⟩ := Json.eq_obj_of_isObject hobj
    simp only [ofJson, Json.pruned, Json.members,
      NodeKind.ofMarkers?_pruned (Assoc.distinct_of_ascending hv.1)]
    exact (Parents.ofMembers_pruned _ [] [] ms hv.2).symm
  · exact fun path => (Node.kindAt?_ofJson_pruned path hv).symm

/-- What the index tells is told of objects below the root. -/
structure Indexed (s : Snapshot) : Prop where
  root : s.parentOf? [] = none
  sound : Parents.Sound [] s.root s.parents

theorem told_merge {s : Snapshot} (hs : s.Reachable) (indexed : s.Indexed) {d : Json}
    (hd : d.Canonical) (now : Int) {place : Path} (hplace : place ≠ []) :
    Parents.Told [] s.root (s.merge now d).root d place (s.parentOf? place)
      ((s.merge now d).parentOf? place) := by
  cases hobj : d.isObject with
  | false =>
    rw [merge_of_not_object now hobj]
    cases hthere : s.root.kindAt? place with
    | none =>
      rw [show s.parentOf? place = none from indexed.sound place hplace hthere]
      exact .gone hthere
    | some kind =>
      refine .kept ?_ (by rw [hthere]; rfl) rfl
      rintro ⟨ms, hms⟩
      cases place with
      | nil => exact hplace rfl
      | cons key rest => simp [Json.at?_cons_other hobj] at hms
  | true =>
    obtain ⟨ms, rfl⟩ := Json.eq_obj_of_isObject hobj
    have hstart : ∀ below, below ≠ [] →
        Assoc.find? below (if s.root.isObject then s.parents else []) = s.parentOf? below := by
      intro below hbelow
      split
      · rfl
      · rename_i hleaf
        have hgone := Node.bind_kindAt?_other (some s.root) (by simpa using hleaf) below
        exact (indexed.sound below hbelow hgone).symm
    have hdistinct : Assoc.Distinct (if s.root.isObject then s.parents else []) := by
      split
      · exact hs.parents_distinct
      · exact List.nodup_nil
    have htold := Parents.told_mergeMembers ⟨s.track, now⟩ hplace []
      ((NodeKind.ofMarkers? ms).getD s.root.kind) hs.tidy hdistinct
      (fun below hbelow hgone => (hstart below hbelow).trans (indexed.sound below hbelow hgone)) hd
    rw [List.nil_append, hstart place hplace] at htold
    exact htold

theorem Indexed.merge {s : Snapshot} (hs : s.Reachable) (indexed : s.Indexed) {d : Json}
    (hd : d.Canonical) (now : Int) : (s.merge now d).Indexed where
  root := by
    cases d with
    | obj ms =>
      have hkept := Parents.find?_mergeMembers_apart ((NodeKind.ofMarkers? ms).getD s.root.kind)
        s.root.fields (if s.root.isObject then s.parents else [])
        fun k (_ : k ∈ Assoc.keys ms) => Parents.not_extended_prefix [] k
      refine hkept.trans ?_
      split
      · exact indexed.root
      · rfl
    | _ => exact indexed.root
  sound := by
    intro place hplace hgone
    have htold := told_merge hs indexed hd now hplace
    change (s.merge now d).parentOf? place = none
    generalize (s.merge now d).parentOf? place = after at htold
    cases htold with
    | gone => rfl
    | named place named there held => simp [hgone] at there
    | kept unnamed there same => simp [hgone] at there

theorem indexed_empty (track : Bool) : (empty track).Indexed := ⟨rfl, fun _ _ _ => rfl⟩

theorem Reachable.indexed {s : Snapshot} (hs : s.Reachable) : s.Indexed := by
  induction hs with
  | empty track => exact indexed_empty track
  | @ofJson track v hv =>
    cases hobj : v.isObject with
    | false =>
      cases v with
      | obj ms => cases hobj
      | _ => exact ⟨rfl, fun _ _ _ => rfl⟩
    | true =>
      -- A whole object is told of as the first merge is, so the step lemma serves here too.
      obtain ⟨hparents, hkinds⟩ := ofJson_as_merged track hobj hv
      have merged := (indexed_empty track).merge (.empty track) hv 0
      refine ⟨?_, fun place hplace hgone => ?_⟩
      · rw [parentOf?, hparents]
        exact merged.root
      · rw [hparents]
        exact merged.sound place hplace ((hkinds place).symm.trans hgone)
  | merge now hd hs ih => exact ih.merge hs hd now

theorem parentOf?_merge_empty (track : Bool) {v : Json} (hv : v.Canonical) (now : Int)
    {container : Path} {key : String}
    (there : (((empty track).merge now v).root.kindAt? (container ++ [key])).isSome) :
    ∃ kind, ((empty track).merge now v).root.kindAt? container = some kind ∧
      ((empty track).merge now v).parentOf? (container ++ [key]) =
        Parents.parentIn? kind container := by
  have hplace : container ++ [key] ≠ [] := by simp
  have htold := told_merge (.empty track) (indexed_empty track) hv now hplace
  generalize ((empty track).merge now v).parentOf? (container ++ [key]) = after at htold
  cases htold with
  | gone gone => simp [gone] at there
  | named place named there held =>
    obtain ⟨rfl, -⟩ := List.append_inj' place rfl
    exact ⟨_, held, rfl⟩
  | kept unnamed there same =>
    rw [show (empty track).root = Node.empty from rfl, Node.kindAt?_empty hplace] at same
    simp [← same] at there

theorem Fresh.parent_of_kind {track : Bool} {s : Snapshot} (hs : s.Fresh track)
    {container : Path} {key : String} (there : (s.root.kindAt? (container ++ [key])).isSome) :
    ∃ kind, s.root.kindAt? container = some kind ∧
      s.parentOf? (container ++ [key]) = Parents.parentIn? kind container := by
  cases hs with
  | empty =>
    have hgone := Node.kindAt?_empty (show container ++ [key] ≠ [] by simp)
    rw [show (Snapshot.empty track).root = Node.empty from rfl, hgone] at there
    cases there
  | @ofJson v hv =>
    cases hobj : v.isObject with
    | false =>
      have hleaf : Node.ofJson v = .leaf v none := by
        cases v with
        | obj ms => cases hobj
        | _ => rfl
      rw [show (Snapshot.ofJson track v).root = _ from hleaf, Node.kindAt?_leaf] at there
      cases there
    | true =>
      obtain ⟨hparents, hkinds⟩ := ofJson_as_merged track hobj hv
      rw [hkinds] at there
      rw [parentOf?, hparents, hkinds]
      exact parentOf?_merge_empty track hv 0 there

/-- After these of the merges none names the place, and the last of them does, unless there
is none. -/
structure LastNamed (ds earlier : List (Int × Json)) (place : Path) : Prop where
  silent : ∃ later, ds = earlier ++ later ∧ ∀ d ∈ later, ¬ d.2.Names place
  ends : ∀ d, earlier.getLast? = some d → d.2.Names place

theorem LastNamed.snoc_named {ds : List (Int × Json)} {d : Int × Json} {place : Path}
    (h : d.2.Names place) : LastNamed (ds ++ [d]) (ds ++ [d]) place where
  silent := ⟨[], by simp, nofun⟩
  ends := by
    intro e he
    rw [List.getLast?_concat] at he
    obtain rfl := Option.some.inj he
    exact h

theorem LastNamed.snoc_silent {ds earlier : List (Int × Json)} {d : Int × Json} {place : Path}
    (h : LastNamed ds earlier place) (unnamed : ¬ d.2.Names place) :
    LastNamed (ds ++ [d]) earlier place where
  silent := by
    obtain ⟨later, rfl, hlater⟩ := h.silent
    refine ⟨later ++ [d], by simp, ?_⟩
    intro e he
    rcases List.mem_append.mp he with he | he
    · exact hlater e he
    · rwa [List.mem_singleton.mp he]
  ends := h.ends

theorem parentOf?_mergeAll {track : Bool} {s : Snapshot} (hs : s.Fresh track)
    {ds : List (Int × Json)} (hds : ∀ d ∈ ds, d.2.Canonical) {container : Path} {key : String}
    (there : ((s.mergeAll ds).root.kindAt? (container ++ [key])).isSome) :
    ∃ earlier held, LastNamed ds earlier (container ++ [key]) ∧
      (s.mergeAll earlier).root.kindAt? container = some held ∧
      (s.mergeAll ds).parentOf? (container ++ [key]) = Parents.parentIn? held container := by
  induction ds using List.reverseRecOn with
  | nil =>
    obtain ⟨kind, held, hparent⟩ := hs.parent_of_kind there
    exact ⟨[], kind, ⟨⟨[], rfl, nofun⟩, nofun⟩, held, hparent⟩
  | append_singleton ds d ih =>
    have hearlier : ∀ e ∈ ds, e.2.Canonical := fun e he => hds e (List.mem_append_left [d] he)
    have hreach := hs.reachable hearlier
    have htold := told_merge hreach hreach.indexed (hds d (by simp)) d.1
      (show container ++ [key] ≠ [] by simp)
    have hall := mergeAll_snoc s ds d
    rw [← hall] at htold
    generalize (s.mergeAll (ds ++ [d])).parentOf? (container ++ [key]) = after at htold ⊢
    -- Only a diff that names the place starts anew; any other passes on the earlier naming.
    cases htold with
    | gone gone => simp [gone] at there
    | named place named there held =>
      obtain ⟨rfl, -⟩ := List.append_inj' place rfl
      exact ⟨ds ++ [d], _, .snoc_named named, held, rfl⟩
    | kept unnamed there same =>
      obtain ⟨earlier, held, hlast, hheld, hparent⟩ := ih hearlier (by rwa [same])
      exact ⟨earlier, held, hlast.snoc_silent unnamed, hheld, hparent⟩

/-- The parent of an object follows the kind that its container had when the object was last
named by a diff, or at the start if none has named it. It agrees with the kind that the
container has now just if the two kinds are the same. -/
theorem parent_follows_naming {track : Bool} {s : Snapshot} (hs : s.Fresh track)
    {ds : List (Int × Json)} (hds : ∀ d ∈ ds, d.2.Canonical) {container : Path} {key : String}
    {kind : NodeKind} {fs : List (String × Node)}
    (hobject : (s.mergeAll ds).get? (container ++ [key]) = some (.object kind fs)) :
    ∃ earlier held current, LastNamed ds earlier (container ++ [key]) ∧
      (s.mergeAll earlier).root.kindAt? container = some held ∧
      (s.mergeAll ds).root.kindAt? container = some current ∧
      (s.mergeAll ds).parentOf? (container ++ [key]) = Parents.parentIn? held container ∧
      ((s.mergeAll ds).parentOf? (container ++ [key]) = Parents.parentIn? current container ↔
        held = current) := by
  have there := Node.kindAt?_isSome hobject
  obtain ⟨current, hcurrent⟩ := Node.kindAt?_container hobject
  obtain ⟨earlier, held, hlast, hheld, hparent⟩ := parentOf?_mergeAll hs hds there
  refine ⟨earlier, held, current, hlast, hheld, hcurrent, hparent, ?_⟩
  rw [hparent]
  exact Parents.parentIn?_inj

/-- A map that becomes a struct again after its child has been named for the last time. -/
theorem parent_follows_naming_between :
    let s := ofJson true (.obj [("m", .obj [("x", .obj [])])])
    let ds : List (Int × Json) :=
      [(1, .obj [("m", .obj [("_isMap", .bool true)])]), (2, .obj [("m", .obj [("x", .obj [])])]),
       (3, .obj [("m", .obj [("_isStruct", .bool true)])])]
    s.Fresh true ∧ (∀ d ∈ ds, d.2.Canonical) ∧
      (s.mergeAll ds).get? ["m", "x"] = some (.object .struct []) ∧
      (s.mergeAll ds).parentOf? ["m", "x"] = some [] ∧
      ∃ earlier held current, LastNamed ds earlier ["m", "x"] ∧
        (s.mergeAll earlier).root.kindAt? ["m"] = some held ∧
        (s.mergeAll ds).root.kindAt? ["m"] = some current ∧
        (s.mergeAll ds).parentOf? ["m", "x"] = Parents.parentIn? held ["m"] ∧
        ((s.mergeAll ds).parentOf? ["m", "x"] = Parents.parentIn? current ["m"] ↔
          held = current) := by
  intro s ds
  have fresh : s.Fresh true :=
    .ofJson ⟨by decide, ⟨by decide, ⟨by decide, trivial⟩, trivial⟩, trivial⟩
  have canonical : ∀ d ∈ ds, d.2.Canonical := by
    have turned : ∀ marker, (Json.obj [("m", .obj [(marker, .bool true)])]).Canonical :=
      fun marker => ⟨List.pairwise_singleton _ _, ⟨List.pairwise_singleton _ _, trivial, trivial⟩,
        trivial⟩
    have named : (Json.obj [("m", .obj [("x", .obj [])])]).Canonical :=
      ⟨by decide, ⟨by decide, ⟨by decide, trivial⟩, trivial⟩, trivial⟩
    simp only [ds, List.forall_mem_cons]
    exact ⟨turned _, named, turned _, nofun⟩
  have object : (s.mergeAll ds).get? (["m"] ++ ["x"]) = some (.object .struct []) := rfl
  exact ⟨fresh, canonical, object, rfl, parent_follows_naming fresh canonical object⟩

/-- The root and a container below it become maps, and the diff names none of their other
children. The index goes on to tell the root and the container as the parents of these. -/
theorem parent_of_turned_map :
    let s := ofJson true (.obj [("a", .obj []), ("m", .obj [("x", .obj [])])])
    let t := s.merge 1 (.obj [("_isMap", .bool true), ("m", .obj [("_isMap", .bool true)])])
    t.Reachable ∧
      (t.root.kindAt? [] = some .map ∧ t.root.kindAt? ["a"] = some .struct ∧
        t.parentOf? ["a"] = some [] ∧ t.parentOf? ["a"] ≠ Parents.parentIn? .map []) ∧
      (t.root.kindAt? ["m"] = some .map ∧ t.root.kindAt? ["m", "x"] = some .struct ∧
        t.parentOf? ["m", "x"] = some ["m"] ∧
        t.parentOf? ["m", "x"] ≠ Parents.parentIn? .map ["m"]) := by
  intro s t
  have whole : (Json.obj [("a", .obj []), ("m", .obj [("x", .obj [])])]).Canonical :=
    ⟨by decide, ⟨by decide, trivial⟩, ⟨by decide, ⟨by decide, trivial⟩, trivial⟩, trivial⟩
  have turned : (Json.obj [("_isMap", .bool true),
      ("m", .obj [("_isMap", .bool true)])]).Canonical :=
    ⟨by decide, trivial, ⟨by decide, trivial, trivial⟩, trivial⟩
  exact ⟨.merge 1 turned (.ofJson true whole), ⟨rfl, rfl, rfl, by decide⟩, rfl, rfl, rfl,
    by decide⟩

theorem exists_container {place : Path} (h : place ≠ []) :
    ∃ container key, place = container ++ [key] :=
  (List.eq_nil_or_concat' place).resolve_left h

theorem Reachable.history {s : Snapshot} (hs : s.Reachable) :
    ∃ track start ds, Fresh track start ∧ (∀ d ∈ ds, d.2.Canonical) ∧ s = start.mergeAll ds := by
  induction hs with
  | empty track => exact ⟨track, _, [], .empty, nofun, rfl⟩
  | ofJson track hv => exact ⟨track, _, [], .ofJson hv, nofun, rfl⟩
  | @merge now d hd s hs ih =>
    obtain ⟨track, start, ds, fresh, hds, rfl⟩ := ih
    refine ⟨track, start, ds ++ [(now, d)], fresh, ?_, (mergeAll_snoc start ds (now, d)).symm⟩
    intro e he
    rcases List.mem_append.mp he with he | he
    · exact hds e he
    · rwa [List.mem_singleton.mp he]

theorem Reachable.parentOf?_child {s : Snapshot} (hs : s.Reachable) {container : Path}
    {key : String} (there : (s.root.kindAt? (container ++ [key])).isSome) :
    ∃ kind, s.parentOf? (container ++ [key]) = Parents.parentIn? kind container := by
  obtain ⟨track, start, ds, fresh, hds, rfl⟩ := hs.history
  obtain ⟨earlier, held, -, -, hparent⟩ := parentOf?_mergeAll fresh hds there
  exact ⟨held, hparent⟩

/-- Of the root, of leaves and of what is not there the index tells nothing. -/
theorem Reachable.parentOf?_eq_none {s : Snapshot} (hs : s.Reachable) {place : Path}
    (h : place = [] ∨ ∀ kind fs, s.get? place ≠ some (.object kind fs)) :
    s.parentOf? place = none := by
  by_cases hplace : place = []
  · rw [hplace]
    exact hs.indexed.root
  · refine hs.indexed.sound place hplace (Option.eq_none_iff_forall_ne_some.mpr ?_)
    intro kind hkind
    obtain ⟨fs, hobject⟩ := Node.kindAt?_eq_some_iff.mp hkind
    exact h.resolve_left hplace kind fs hobject

/-- The parent index has no dangling and no missing entry: it has entries for objects below
the root only, one for every object at depth two or more, and each tells the container or
the container's container. -/
theorem parents_of_objects {s : Snapshot} (hs : s.Reachable) :
    (∀ place ∈ Assoc.keys s.parents, place ≠ [] ∧ ∃ kind fs, s.get? place = some (.object kind fs)) ∧
      (∀ place, (place = [] ∨ ∀ kind fs, s.get? place ≠ some (.object kind fs)) →
        s.parentOf? place = none) ∧
      (∀ place kind fs, 2 ≤ place.length → s.get? place = some (.object kind fs) →
        place ∈ Assoc.keys s.parents) ∧
      ∀ place parent, (place, parent) ∈ s.parents →
        (∃ key, parent ++ [key] = place) ∨ ∃ name key, parent ++ [name, key] = place := by
  have hobjects : ∀ place ∈ Assoc.keys s.parents,
      place ≠ [] ∧ ∃ kind fs, s.get? place = some (.object kind fs) := by
    intro place hmem
    have htells : s.parentOf? place ≠ none := fun hnone => Assoc.find?_eq_none_iff.mp hnone hmem
    constructor
    · exact fun hroot => htells (hs.parentOf?_eq_none (.inl hroot))
    · by_contra hnot
      refine htells (hs.parentOf?_eq_none (.inr fun kind fs hobject => ?_))
      exact hnot ⟨kind, fs, hobject⟩
  refine ⟨hobjects, fun place h => hs.parentOf?_eq_none h, ?_, ?_⟩
  · intro place kind fs hdepth hobject
    obtain ⟨container, key, rfl⟩ := exists_container (show place ≠ [] by rintro rfl; simp at hdepth)
    have hbelow : container ≠ [] := by
      rintro rfl
      simp at hdepth
    have there := Node.kindAt?_isSome hobject
    obtain ⟨held, hparent⟩ := hs.parentOf?_child there
    rw [← Assoc.find?_isSome_iff, show Assoc.find? _ s.parents = _ from hparent]
    exact Parents.parentIn?_isSome held hbelow
  · intro place parent hmem
    have hkey : place ∈ Assoc.keys s.parents := List.mem_map.mpr ⟨_, hmem, rfl⟩
    obtain ⟨hplace, kind, fs, hobject⟩ := hobjects place hkey
    obtain ⟨container, key, rfl⟩ := exists_container hplace
    have there := Node.kindAt?_isSome hobject
    obtain ⟨held, hparent⟩ := hs.parentOf?_child there
    have hentry : s.parentOf? (container ++ [key]) = some parent :=
      Assoc.find?_of_mem hs.parents_distinct hmem
    rw [hentry] at hparent
    rcases Parents.parentIn?_eq_some key hparent.symm with heq | ⟨name, heq⟩
    · exact .inl ⟨key, heq⟩
    · exact .inr ⟨name, key, heq⟩

/-- Below a root that is a map: an object goes, one becomes a leaf, and a leaf becomes an
object with another below it. -/
theorem parents_of_objects_flips :
    let s := ofJson true (.obj [("_isMap", .bool true), ("a", .obj [("x", .obj [("y", .obj [])])]),
      ("b", .obj [("z", .obj [])]), ("c", .str "leaf")])
    let t := s.merge 1 (.obj [("a", .obj [("x", .null)]), ("b", .str "leaf"),
      ("c", .obj [("w", .obj [])])])
    t.Reachable ∧ Assoc.keys s.parents = [["a", "x"], ["a", "x", "y"], ["b", "z"]] ∧
      t.parents = [(["c", "w"], ["c"])] ∧ t.parentOf? ["a", "x", "y"] = none ∧
      ["c", "w"] ∈ Assoc.keys t.parents := by
  intro s t
  have whole : (Json.obj [("_isMap", .bool true), ("a", .obj [("x", .obj [("y", .obj [])])]),
      ("b", .obj [("z", .obj [])]), ("c", .str "leaf")]).Canonical :=
    ⟨by decide, trivial, ⟨by decide, ⟨by decide, ⟨by decide, trivial⟩, trivial⟩, trivial⟩,
      ⟨by decide, ⟨by decide, trivial⟩, trivial⟩, trivial, trivial⟩
  have diff : (Json.obj [("a", .obj [("x", .null)]), ("b", .str "leaf"),
      ("c", .obj [("w", .obj [])])]).Canonical :=
    ⟨by decide, ⟨by decide, trivial, trivial⟩, trivial,
      ⟨by decide, ⟨by decide, trivial⟩, trivial⟩, trivial⟩
  have reachable : t.Reachable := .merge 1 diff (.ofJson true whole)
  obtain ⟨-, none, object, -⟩ := parents_of_objects reachable
  exact ⟨reachable, rfl, rfl, none ["a", "x", "y"] (.inr nofun),
    object ["c", "w"] .struct [] (by decide) rfl⟩

end Snapshot

end TopicClient
