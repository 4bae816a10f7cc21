import TopicClient.Proofs.Merges
import TopicClient.Proofs.ParentIndex

/-!
# What a merge tells of parents

A merge tells anew the parent of each object that its diff names, by the kind that the
container then has. For any other object the index keeps what it told, and where no object
is left it tells nothing.
-/

namespace TopicClient

namespace Node

/-- The kind of the object at a path, if there is one. -/
def kindAt? (path : Path) (n : Node) : Option NodeKind :=
  match n.get? path with
  | some (.object kind _) => some kind
  | _ => none

theorem kindAt?_eq_some_iff {path : Path} {n : Node} {kind : NodeKind} :
    n.kindAt? path = some kind ↔ ∃ fs, n.get? path = some (.object kind fs) := by
  rw [kindAt?]
  split
  · rename_i k fs hfound
    simp [hfound]
  · rename_i hnot
    simp only [reduceCtorEq, false_iff]
    rintro ⟨fs, hfound⟩
    exact hnot kind fs hfound

theorem kindAt?_isSome {path : Path} {n : Node} {kind : NodeKind} {fs : List (String × Node)}
    (h : n.get? path = some (.object kind fs)) : (n.kindAt? path).isSome :=
  Option.isSome_of_eq_some (kindAt?_eq_some_iff.mpr ⟨fs, h⟩)

theorem kindAt?_cons (key : String) (path : Path) (n : Node) :
    n.kindAt? (key :: path) = (n.field? key).bind (kindAt? path) := by
  rw [kindAt?, get?]
  cases n.field? key with
  | none => rfl
  | some m => rfl

/-- What holds something is an object. -/
theorem kindAt?_container {path : Path} {key : String} {n m : Node}
    (h : n.get? (path ++ [key]) = some m) : ∃ kind, n.kindAt? path = some kind := by
  rw [get?_append] at h
  obtain ⟨holder, hholder, hm⟩ := Option.bind_eq_some_iff.mp h
  cases holder with
  | leaf v c => cases hm
  | object kind fs => exact ⟨kind, kindAt?_eq_some_iff.mpr ⟨fs, hholder⟩⟩

theorem kindAt?_leaf (path : Path) (v : Json) (c : Option Change) :
    (leaf v c).kindAt? path = none := by
  cases path <;> rfl

/-- Nothing and a leaf have no object at or below their place. -/
theorem bind_kindAt?_other (old : Option Node) (h : (old.map isObject).getD false = false)
    (path : Path) : old.bind (kindAt? path) = none := by
  match old with
  | none => rfl
  | some (.leaf v c) => exact kindAt?_leaf path v c
  | some (.object kind fs) => cases h

theorem isObject_merge_other (s : Stamp) (old : Option Node) {d : Json}
    (hobj : d.isObject = false) : ((merge s old d).map isObject).getD false = false := by
  rcases merge_other s old hobj with hgone | ⟨w, c, hleaf⟩
  · rw [hgone]
    rfl
  · rw [hleaf]
    rfl

theorem kindAt?_empty {path : Path} (h : path ≠ []) : empty.kindAt? path = none := by
  cases path with
  | nil => exact absurd rfl h
  | cons key path => rfl

/-- An object that a diff creates has nothing below it at first. -/
theorem kindAt?_base (old : Option Node) (key : String) (path : Path) :
    (base old).kindAt? (key :: path) = old.bind (kindAt? (key :: path)) := by
  cases old <;> rfl

theorem kindAt?_mergeFields (s : Stamp) (kind : NodeKind) {old : Node} (hold : old.Tidy)
    {ms : List (String × Json)} (hms : Assoc.Distinct ms) (key : String) (path : Path) :
    (object kind (mergeFields s old.fields ms)).kindAt? (key :: path) =
      ((Assoc.find? key ms).elim (old.field? key) (merge s (old.field? key))).bind
        (kindAt? path) := by
  rw [kindAt?_cons]
  exact congrArg (Option.bind · (kindAt? path)) (find?_mergeFields s hms hold.fields_distinct key)

end Node

/-- The diff has an object for the path. -/
def Json.Names (d : Json) (path : Path) : Prop := ∃ ms, d.at? path = some (.obj ms)

namespace Parents

theorem find?_forget_below {top path : Path} (h : top <+: path) (ps : Parents) :
    Assoc.find? path (forget top ps) = none := by
  have hgone : (!top.isPrefixOf path) = false := by
    rw [Bool.not_eq_false', List.isPrefixOf_iff_prefix]
    exact h
  exact Assoc.find?_filter_gone (p := fun place => !top.isPrefixOf place) hgone ps

/-- Below a member of a diff, the index depends on that member and on what the index told
there before. -/
theorem find?_mergeMembers_below (kind : NodeKind) {path : Path} (fields : List (String × Node))
    {ms : List (String × Json)} (hms : Assoc.Distinct ms) {key : String} {d : Json}
    (hfound : Assoc.find? key ms = some d) {ps : Parents} (hps : Assoc.Distinct ps) :
    ∃ qs : Parents, Assoc.Distinct qs ∧
      (∀ place, path ++ [key] <+: place → Assoc.find? place qs = Assoc.find? place ps) ∧
      ∀ place, path ++ [key] <+: place → Assoc.find? place (mergeMembers kind path fields ps ms) =
        Assoc.find? place (merge kind path key (Assoc.find? key fields) qs d) := by
  induction ms generalizing ps with
  | nil => cases hfound
  | cons e ms ih =>
    obtain ⟨k, v⟩ := e
    obtain ⟨fresh, hrest⟩ := Assoc.distinct_cons.mp hms
    by_cases hk : k = key
    · subst hk
      obtain rfl : v = d := by simpa [Assoc.find?] using hfound
      refine ⟨ps, hps, fun _ _ => rfl, ?_⟩
      intro place hplace
      rw [mergeMembers]
      refine find?_mergeMembers_apart kind fields _ fun j hj => not_prefix_of_ne ?_ hplace
      rintro rfl
      exact fresh hj
    · have hedited := edited_merge kind path k (Assoc.find? k fields) ps v
      obtain ⟨qs, hqs, hsame, hmerged⟩ :=
        ih hrest (by simpa [Assoc.find?, hk] using hfound) (hedited.distinct hps)
      refine ⟨qs, hqs, ?_, hmerged⟩
      intro place hplace
      rw [hsame place hplace]
      exact hedited.find?_apart (not_prefix_of_ne hk hplace)

/-- Below the path the index tells nothing of a place without an object. -/
def Sound (path : Path) (n : Node) (ps : Parents) : Prop :=
  ∀ below, below ≠ [] → n.kindAt? below = none → Assoc.find? (path ++ below) ps = none

/-- How the index has come to what it tells of a place after a merge: no object is there, or
the diff names the one that is there, or the index tells what it told before. -/
inductive Told (path : Path) (old new : Node) (d : Json) (below : Path)
    (before : Option Path) : Option Path → Prop
  | gone (gone : new.kindAt? below = none) : Told path old new d below before none
  | named {container : Path} {key : String} {kind : NodeKind} (place : below = container ++ [key])
      (named : d.Names below) (there : (new.kindAt? below).isSome)
      (held : new.kindAt? container = some kind) :
      Told path old new d below before (parentIn? kind (path ++ container))
  | kept (unnamed : ¬ d.Names below) (there : (new.kindAt? below).isSome)
      (same : old.kindAt? below = new.kindAt? below) : Told path old new d below before before

/-- What has been told of a child is told of the container. -/
theorem Told.child {path rest : Path} {key : String} {old new old' new' : Node} {d d' : Json}
    {before after : Option Path} (h : Told (path ++ [key]) old' new' d' rest before after)
    (hd : ∀ q, d.at? (key :: q) = d'.at? q) (hnew : ∀ q, new.kindAt? (key :: q) = new'.kindAt? q)
    (hold : old.kindAt? (key :: rest) = old'.kindAt? rest) :
    Told path old new d (key :: rest) before after := by
  have hnames : d.Names (key :: rest) ↔ d'.Names rest := by simp only [Json.Names, hd]
  cases h with
  | gone gone => exact .gone ((hnew rest).trans gone)
  | @named container k kind place named there held =>
    have hpath : path ++ [key] ++ container = path ++ key :: container := by simp
    rw [hpath]
    refine .named (by rw [place]; rfl) (hnames.mpr named) ?_ ((hnew container).trans held)
    rwa [hnew]
  | kept unnamed there same =>
    refine .kept (mt hnames.mp unnamed) ?_ (by rw [hold, hnew, same])
    rwa [hnew]

/-- Where the diff has no object, the index tells nothing any more. -/
theorem find?_merge_other {d : Json} (hobj : d.isObject = false) (kind : NodeKind)
    {container place : Path} {key : String} {old : Option Node} {ps : Parents}
    (hplace : container ++ [key] <+: place)
    (absent : (old.map Node.isObject).getD false = false → Assoc.find? place ps = none) :
    Assoc.find? place (merge kind container key old ps d) = none := by
  cases d with
  | obj ms => cases hobj
  | null =>
    cases old with
    | none => exact absent rfl
    | some n => exact find?_forget_below hplace ps
  | _ =>
    simp only [merge]
    split
    · exact find?_forget_below hplace ps
    · rename_i hold
      exact absent (by simpa using hold)

theorem Sound.child {path : Path} {old : Node} {ps qs : Parents} (sound : Sound path old ps)
    {key : String} (kind : NodeKind)
    (same : ∀ place, path ++ [key] <+: place → Assoc.find? place qs = Assoc.find? place ps) :
    Sound (path ++ [key]) (Node.base (old.field? key)) (record kind path key qs) := by
  intro below hbelow hgone
  cases below with
  | nil => exact absurd rfl hbelow
  | cons k below =>
    rw [Node.kindAt?_base, ← Node.kindAt?_cons] at hgone
    have hne : path ++ [key] ++ k :: below ≠ path ++ [key] := by simp
    rw [find?_record_of_ne hne, same _ (List.prefix_append _ _), List.append_assoc]
    exact sound _ (by simp) hgone

section Members
variable {s : Stamp} {path : Path} {kind : NodeKind} {old : Node} {ps : Parents}
  {ms : List (String × Json)} {key : String} {rest : Path}

theorem prefix_append_cons (path : Path) (key : String) (rest : Path) :
    path ++ [key] <+: path ++ key :: rest :=
  ⟨rest, List.append_assoc path [key] rest⟩

/-- A field that the diff has no member for keeps what is told below it. -/
theorem told_of_absent (hold : old.Tidy) (sound : Sound path old ps)
    (hms : (Json.obj ms).Canonical) (hfound : Assoc.find? key ms = none) :
    Told path old (.object kind (Node.mergeFields s old.fields ms)) (.obj ms) (key :: rest)
      (Assoc.find? (path ++ key :: rest) ps)
      (Assoc.find? (path ++ key :: rest) (mergeMembers kind path old.fields ps ms)) := by
  have hsame : old.kindAt? (key :: rest) =
      (Node.object kind (Node.mergeFields s old.fields ms)).kindAt? (key :: rest) := by
    rw [Node.kindAt?_mergeFields s kind hold (Assoc.distinct_of_ascending hms.1), hfound]
    exact Node.kindAt?_cons key rest old
  have hkept : Assoc.find? (path ++ key :: rest) (mergeMembers kind path old.fields ps ms) =
      Assoc.find? (path ++ key :: rest) ps := by
    refine find?_mergeMembers_apart kind old.fields ps fun k hk => ?_
    refine not_prefix_of_ne ?_ (prefix_append_cons path key rest)
    rintro rfl
    exact Assoc.find?_eq_none_iff.mp hfound hk
  rw [hkept]
  cases hthere : old.kindAt? (key :: rest) with
  | none =>
    rw [sound _ (List.cons_ne_nil key rest) hthere]
    exact .gone (by rw [← hsame, hthere])
  | some k =>
    refine .kept ?_ (by rw [← hsame, hthere]; rfl) hsame
    rintro ⟨es, hes⟩
    simp [Json.at?_obj_cons, hfound] at hes

/-- Below a field that is deleted or overwritten nothing is told any more. -/
theorem told_of_other (hold : old.Tidy) (hps : Assoc.Distinct ps) (sound : Sound path old ps)
    (hms : (Json.obj ms).Canonical) {d : Json} (hfound : Assoc.find? key ms = some d)
    (hobj : d.isObject = false) :
    Told path old (.object kind (Node.mergeFields s old.fields ms)) (.obj ms) (key :: rest)
      (Assoc.find? (path ++ key :: rest) ps)
      (Assoc.find? (path ++ key :: rest) (mergeMembers kind path old.fields ps ms)) := by
  have hnames := Assoc.distinct_of_ascending hms.1
  have hplace := prefix_append_cons path key rest
  obtain ⟨qs, -, hsame, hmerged⟩ := find?_mergeMembers_below kind old.fields hnames hfound hps
  rw [hmerged _ hplace, find?_merge_other hobj kind hplace]
  · refine .gone ?_
    rw [Node.kindAt?_mergeFields s kind hold hnames, hfound]
    exact Node.bind_kindAt?_other _ (Node.isObject_merge_other s _ hobj) rest
  · intro habsent
    rw [hsame _ hplace]
    refine sound _ (List.cons_ne_nil key rest) ((Node.kindAt?_cons key rest old).trans ?_)
    exact Node.bind_kindAt?_other _ habsent rest

/-- The parent of an object that the diff names is told by the new kind of its container. -/
theorem told_of_named (hold : old.Tidy) (hps : Assoc.Distinct ps)
    (hms : (Json.obj ms).Canonical) {es : List (String × Json)}
    (hfound : Assoc.find? key ms = some (.obj es)) :
    Told path old (.object kind (Node.mergeFields s old.fields ms)) (.obj ms) [key]
      (Assoc.find? (path ++ [key]) ps)
      (Assoc.find? (path ++ [key]) (mergeMembers kind path old.fields ps ms)) := by
  have hnames := Assoc.distinct_of_ascending hms.1
  obtain ⟨qs, hqs, -, hmerged⟩ := find?_mergeMembers_below kind old.fields hnames hfound hps
  have hrecorded : Assoc.find? (path ++ [key])
      (merge kind path key (old.field? key) qs (.obj es)) = parentIn? kind (path ++ []) := by
    rw [List.append_nil]
    exact (find?_mergeMembers_apart _ _ _ fun k _ => not_extended_prefix _ k).trans
      (find?_record_self hqs kind path key)
  rw [hmerged _ List.prefix_rfl]
  refine hrecorded ▸ .named (show [key] = [] ++ [key] from rfl) ⟨es, ?_⟩ ?_ rfl
  · rw [Json.at?_obj_cons, hfound]
    rfl
  · rw [Node.kindAt?_mergeFields s kind hold hnames, hfound]
    rfl

end Members

theorem told_mergeMembers (s : Stamp) {below : Path} (hbelow : below ≠ []) (path : Path)
    (kind : NodeKind) {old : Node} (hold : old.Tidy) {ps : Parents} (hps : Assoc.Distinct ps)
    (sound : Sound path old ps) {ms : List (String × Json)} (hms : (Json.obj ms).Canonical) :
    Told path old (.object kind (Node.mergeFields s old.fields ms)) (.obj ms) below
      (Assoc.find? (path ++ below) ps)
      (Assoc.find? (path ++ below) (mergeMembers kind path old.fields ps ms)) := by
  -- The place decides: each level of the tree hands what is left of it to one member.
  induction below generalizing path kind old ps ms with
  | nil => exact absurd rfl hbelow
  | cons key rest ih =>
    have hnames := Assoc.distinct_of_ascending hms.1
    cases hfound : Assoc.find? key ms with
    | none => exact told_of_absent hold sound hms hfound
    | some d =>
      cases hobj : d.isObject with
      | false => exact told_of_other hold hps sound hms hfound hobj
      | true =>
        obtain ⟨es, rfl⟩ := Json.eq_obj_of_isObject hobj
        cases rest with
        | nil => exact told_of_named hold hps hms hfound
        | cons k rest =>
          obtain ⟨qs, hqs, hsame, hmerged⟩ :=
            find?_mergeMembers_below kind old.fields hnames hfound hps
          have htold := ih (List.cons_ne_nil k rest) (path ++ [key])
            ((NodeKind.ofMarkers? es).getD (Node.base (old.field? key)).kind)
            (Node.tidy_base fun n hn => hold.field hn)
            ((Edited.refl.record kind List.prefix_rfl).distinct hqs) (sound.child kind hsame)
            (Json.canonical_of_find? hms.2 hfound)
          rw [find?_record_of_ne (by simp), hsame _ (List.prefix_append _ _)] at htold
          rw [hmerged _ (prefix_append_cons path key _),
            show path ++ key :: k :: rest = path ++ [key] ++ k :: rest by simp]
          refine htold.child (fun q => ?_) (fun q => ?_) ?_
          · rw [Json.at?_obj_cons, hfound]
            rfl
          · rw [Node.kindAt?_mergeFields s kind hold hnames, hfound]
            rfl
          · rw [Node.kindAt?_base, Node.kindAt?_cons]

end Parents

end TopicClient
