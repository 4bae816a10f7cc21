import TopicClient.Proofs.Merges
import TopicClient.Proofs.TopicLives

/-!
# Where a value comes from

A leaf carries the last change of the value at its path: what was there before the last
merge that made a difference, and the time of that merge. A value that has not changed
since it appeared carries none, whatever had been there before it was deleted.
-/

namespace TopicClient

namespace Json

theorem same_object_other {v w : Json} (hv : v.isObject = true) (hw : w.isObject = false) :
    v.same w = false := by
  cases v with
  | obj ms =>
    cases w with
    | obj ns => cases hw
    | _ => rfl
  | _ => cases hv

/-- Look-ups that find nothing and something differ. -/
theorem not_sameFound_none (v : Json) : ¬ SameFound none (some v) := nofun

theorem not_sameFound_some {v w : Json} (h : v.same w = false) :
    ¬ SameFound (some v) (some w) := by
  intro hsame
  cases hsame with
  | some hsame =>
    rw [h] at hsame
    cases hsame

end Json

namespace Stamp

/-- The change of a leaf that takes the place of a node. -/
def changeOf (s : Stamp) (n : Node) : Option Change :=
  if s.track then some ⟨n.toJson, s.now⟩ else n.change?

/-- How a merge may have come to a leaf: it was there before, nothing was there, or a
node with a different value was. -/
inductive Leaves (s : Stamp) : Option Node → Json → Option Change → Prop
  | kept (v : Json) (c : Option Change) : Leaves s (some (.leaf v c)) v c
  | fresh (v : Json) : Leaves s none v none
  | overwritten {n : Node} {v : Json} (differs : n.toJson.same v = false) :
      Leaves s (some n) v (s.changeOf n)

theorem leaves_overwrite (s : Stamp) {d : Json} (hobj : d.isObject = false)
    {old : Option Node} {v : Json} {c : Option Change} (h : s.overwrite d old = .leaf v c) :
    s.Leaves old v c := by
  match old with
  | none =>
    obtain ⟨rfl, rfl⟩ := Node.leaf.inj h
    exact .fresh d
  | some (.object kind fields) =>
    obtain ⟨rfl, rfl⟩ := Node.leaf.inj h
    exact .overwritten (Json.same_object_other rfl hobj)
  | some (.leaf current change) =>
    cases hsame : current.same d with
    | true =>
      have hkeep : s.overwrite d (some (.leaf current change)) = .leaf current change := by
        simp [overwrite, hsame]
      obtain ⟨rfl, rfl⟩ := Node.leaf.inj (hkeep.symm.trans h)
      exact .kept current change
    | false =>
      have hnew : s.overwrite d (some (.leaf current change)) =
          .leaf d (s.changeOf (.leaf current change)) := by
        cases htrack : s.track <;>
          simp [overwrite, hsame, changeOf, change?, htrack, Node.toJson, Node.change?]
      obtain ⟨rfl, rfl⟩ := Node.leaf.inj (hnew.symm.trans h)
      exact .overwritten hsame

end Stamp

namespace Node

/-- What a merge leaves is an object where the diff is one, and a leaf otherwise. -/
theorem merge_cases {s : Stamp} {old : Option Node} {d : Json} {m : Node}
    (h : merge s old d = some m) :
    (∃ ds, d = .obj ds ∧ m = .object ((NodeKind.ofMarkers? ds).getD (base old).kind)
      (mergeFields s (base old).fields ds)) ∨
    (d.isObject = false ∧ m = s.overwrite d old) := by
  cases d with
  | null => cases h
  | obj ds => exact .inl ⟨ds, rfl, (Option.some.inj h).symm⟩
  | bool b => exact .inr ⟨rfl, (Option.some.inj h).symm⟩
  | num n => exact .inr ⟨rfl, (Option.some.inj h).symm⟩
  | str t => exact .inr ⟨rfl, (Option.some.inj h).symm⟩
  | arr xs => exact .inr ⟨rfl, (Option.some.inj h).symm⟩

/-- What a merge does at a path, told by what was there before. -/
theorem leaves_merge (s : Stamp) (path : Path) {d : Json} (hd : d.Canonical)
    {old : Option Node} (hold : ∀ n, old = some n → n.Tidy) {m : Node}
    (hm : merge s old d = some m) {v : Json} {c : Option Change}
    (hleaf : m.get? path = some (.leaf v c)) : s.Leaves (old.bind (get? path)) v c := by
  have hat := get?_merge_at s path hd old hold
  rw [hm, Option.bind_some, hleaf] at hat
  cases hnamed : d.at? path with
  | some e =>
    rw [hnamed] at hat
    rcases merge_cases hat.symm with ⟨ds, -, hobject⟩ | ⟨hobj, hover⟩
    · cases hobject
    · exact s.leaves_overwrite hobj hover.symm
  | none =>
    cases hreach : d.reaches path with
    | true => simp [hnamed, hreach] at hat
    | false =>
      obtain hkept : some (.leaf v c) = old.bind (get? path) := by
        simpa [hnamed, hreach] using hat
      rw [← hkept]
      exact .kept v c

theorem find?_ofMembers (key : String) (ms : List (String × Json)) :
    Assoc.find? key (ofMembers ms) = (Assoc.find? key ms).map ofJson := by
  induction ms with
  | nil => rfl
  | cons e ms ih =>
    obtain ⟨k, v⟩ := e
    by_cases hk : k = key <;> simp [ofMembers, Assoc.find?, hk, ih]

/-- A whole value has no history. -/
theorem change?_ofJson (path : Path) {v : Json} {n : Node}
    (h : (ofJson v).get? path = some n) : n.change? = none := by
  induction path generalizing v with
  | nil =>
    obtain rfl := Option.some.inj h
    cases v <;> rfl
  | cons key path ih =>
    obtain ⟨m, hm, hn⟩ := Option.bind_eq_some_iff.mp h
    cases v with
    | obj ms =>
      rw [field?, ofJson, fields, find?_ofMembers] at hm
      obtain ⟨w, -, rfl⟩ := Option.map_eq_some_iff.mp hm
      exact ih hn
    | _ => cases hm

end Node

namespace Snapshot

/-- Snapshots that nothing has been merged into yet. -/
inductive Fresh (track : Bool) : Snapshot → Prop
  | empty : Fresh track (.empty track)
  | ofJson {v : Json} (hv : v.Canonical) : Fresh track (.ofJson track v)

/-- The value at a path after so many of the merges. -/
def valueAfter (s : Snapshot) (ds : List (Int × Json)) (path : Path) (n : Nat) : Option Json :=
  (s.mergeAll (ds.take n)).toJson.at? path

/-- Of all merges that change the value at the path, this one is the last. -/
structure LastChange (s : Snapshot) (ds : List (Int × Json)) (path : Path) (j : Nat) :
    Prop where
  lt : j < ds.length
  differs : ¬ Json.SameFound (s.valueAfter ds path j) (s.valueAfter ds path (j + 1))
  settled : ∀ i, j < i → i < ds.length →
    Json.SameFound (s.valueAfter ds path i) (s.valueAfter ds path (i + 1))

theorem Fresh.track_eq {track : Bool} {s : Snapshot} (h : s.Fresh track) : s.track = track := by
  cases h <;> rfl

theorem Fresh.change? {track : Bool} {s : Snapshot} (h : s.Fresh track) (path : Path) :
    s.change? path = none := by
  rw [Snapshot.change?, Option.bind_eq_none_iff]
  intro n hn
  cases h with
  | empty => exact Node.change?_ofJson path (v := .obj []) hn
  | ofJson hv => exact Node.change?_ofJson path hn

theorem mergeAll_snoc (s : Snapshot) (ds : List (Int × Json)) (d : Int × Json) :
    s.mergeAll (ds ++ [d]) = (s.mergeAll ds).merge d.1 d.2 := by
  simp [mergeAll]

theorem track_merge (now : Int) (d : Json) (s : Snapshot) : (s.merge now d).track = s.track := by
  cases d <;> rfl

theorem track_mergeAll (s : Snapshot) (ds : List (Int × Json)) :
    (s.mergeAll ds).track = s.track := by
  induction ds using List.reverseRecOn with
  | nil => rfl
  | append_singleton ds d ih => rw [mergeAll_snoc, track_merge, ih]

theorem Fresh.reachable {track : Bool} {s : Snapshot} (h : s.Fresh track)
    {ds : List (Int × Json)} (hds : ∀ d ∈ ds, d.2.Canonical) : (s.mergeAll ds).Reachable := by
  induction ds using List.reverseRecOn with
  | nil =>
    cases h with
    | empty => exact .empty track
    | ofJson hv => exact .ofJson track hv
  | append_singleton ds d ih =>
    rw [mergeAll_snoc]
    exact .merge d.1 (hds d (by simp)) (ih fun e he => hds e (by simp [he]))

theorem leaves_merge {s : Snapshot} (hs : s.Reachable) (now : Int) {d : Json}
    (hd : d.Canonical) {path : Path} {v : Json} {c : Option Change}
    (h : (s.merge now d).get? path = some (.leaf v c)) :
    Stamp.Leaves ⟨s.track, now⟩ (s.get? path) v c := by
  cases hobj : d.isObject with
  | true =>
    have htidy : ∀ n, some s.root = some n → n.Tidy := by
      rintro n ⟨rfl⟩
      exact hs.tidy
    exact Node.leaves_merge ⟨s.track, now⟩ path hd htidy (root_merge now hobj s) h
  | false =>
    rw [merge_of_not_object now hobj] at h
    rw [h]
    exact .kept v c

/-! ## The values that a path has held -/

section Values
variable {s : Snapshot} {ds : List (Int × Json)} {d : Int × Json} {path : Path}

theorem valueAfter_snoc {n : Nat} (h : n ≤ ds.length) :
    s.valueAfter (ds ++ [d]) path n = s.valueAfter ds path n := by
  rw [valueAfter, valueAfter, List.take_append_of_le_length h]

theorem valueAfter_length : s.valueAfter ds path ds.length = (s.mergeAll ds).toJson.at? path := by
  rw [valueAfter, List.take_length]

theorem valueAfter_all :
    s.valueAfter (ds ++ [d]) path (ds.length + 1) =
      ((s.mergeAll ds).merge d.1 d.2).toJson.at? path := by
  have hall : (ds ++ [d]).take (ds.length + 1) = ds ++ [d] :=
    List.take_of_length_le (by simp)
  rw [valueAfter, hall, mergeAll_snoc]

/-- A merge that changes nothing at the path leaves the last change where it was. -/
theorem lastChange_snoc_same {j : Nat}
    (h : Json.SameFound ((s.mergeAll ds).toJson.at? path)
      (((s.mergeAll ds).merge d.1 d.2).toJson.at? path)) :
    s.LastChange (ds ++ [d]) path j ↔ s.LastChange ds path j := by
  rw [← valueAfter_length, ← valueAfter_all] at h
  constructor
  · intro hlast
    have hle : j ≤ ds.length := by
      have := hlast.lt
      rw [List.length_append, List.length_singleton] at this
      omega
    have hlt : j < ds.length := by
      refine lt_of_le_of_ne hle ?_
      rintro rfl
      apply hlast.differs
      rw [valueAfter_snoc le_rfl]
      exact h
    refine ⟨hlt, ?_, ?_⟩
    · have hdiffers := hlast.differs
      rwa [valueAfter_snoc (by omega), valueAfter_snoc (by omega)] at hdiffers
    · intro i hji hi
      have hsettled := hlast.settled i hji (by simp; omega)
      rwa [valueAfter_snoc (by omega), valueAfter_snoc (by omega)] at hsettled
  · intro hlast
    have hlt := hlast.lt
    refine ⟨by simp; omega, ?_, ?_⟩
    · rw [valueAfter_snoc (by omega), valueAfter_snoc (by omega)]
      exact hlast.differs
    · intro i hji hi
      rw [List.length_append, List.length_singleton] at hi
      by_cases hend : i = ds.length
      · subst hend
        rw [valueAfter_snoc le_rfl]
        exact h
      · rw [valueAfter_snoc (by omega), valueAfter_snoc (by omega)]
        exact hlast.settled i hji (by omega)

/-- A merge that changes the value at the path is the last change from then on. -/
theorem lastChange_snoc_differs {j : Nat}
    (h : ¬ Json.SameFound ((s.mergeAll ds).toJson.at? path)
      (((s.mergeAll ds).merge d.1 d.2).toJson.at? path)) :
    s.LastChange (ds ++ [d]) path j ↔ j = ds.length := by
  rw [← valueAfter_length, ← valueAfter_all] at h
  constructor
  · intro hlast
    have hlt := hlast.lt
    rw [List.length_append, List.length_singleton] at hlt
    by_contra hne
    apply h
    have hsettled := hlast.settled ds.length (by omega) (by simp)
    rwa [valueAfter_snoc le_rfl] at hsettled
  · rintro rfl
    refine ⟨by simp, ?_, ?_⟩
    · rwa [valueAfter_snoc le_rfl]
    · intro i hji hi
      rw [List.length_append, List.length_singleton] at hi
      omega

end Values

/-! ## The changes that are recorded -/

theorem value_of_leaf {s : Snapshot} (hs : s.Reachable) {path : Path} {v : Json}
    {c : Option Change} (h : s.get? path = some (.leaf v c)) : s.toJson.at? path = some v := by
  have hat := Node.at?_toJson path hs.tidy
  rw [show s.root.get? path = _ from h] at hat
  exact hat

/-- The change tells of the last merge that changed the value at the path: what was there
before it, and when it was. There is none if nothing was there. -/
def Recorded (s : Snapshot) (ds : List (Int × Json)) (path : Path) (c : Option Change) : Prop :=
  ∀ change, c = some change ↔ ∃ j, s.LastChange ds path j ∧
    s.valueAfter ds path j = some change.previous ∧
    (ds[j]?).map Prod.fst = some change.changedAt

section Recorded
variable {s : Snapshot} {ds : List (Int × Json)} {d : Int × Json} {path : Path}

theorem Recorded.snoc_same {c : Option Change} (h : s.Recorded ds path c)
    (hsame : Json.SameFound ((s.mergeAll ds).toJson.at? path)
      (((s.mergeAll ds).merge d.1 d.2).toJson.at? path)) :
    s.Recorded (ds ++ [d]) path c := by
  intro change
  rw [h change]
  refine exists_congr fun j => ?_
  rw [lastChange_snoc_same hsame]
  refine and_congr_right fun hlast => ?_
  rw [valueAfter_snoc hlast.lt.le, List.getElem?_append_left hlast.lt]

/-- Where nothing was, no change is recorded. -/
theorem recorded_snoc_fresh (hbefore : (s.mergeAll ds).toJson.at? path = none)
    (hdiffers : ¬ Json.SameFound ((s.mergeAll ds).toJson.at? path)
      (((s.mergeAll ds).merge d.1 d.2).toJson.at? path)) :
    s.Recorded (ds ++ [d]) path none := by
  intro change
  constructor
  · nofun
  · rintro ⟨j, hlast, hprevious, -⟩
    obtain rfl := (lastChange_snoc_differs hdiffers).mp hlast
    rw [valueAfter_snoc le_rfl, valueAfter_length, hbefore] at hprevious
    cases hprevious

theorem recorded_snoc_overwritten {previous : Json}
    (hbefore : (s.mergeAll ds).toJson.at? path = some previous)
    (hdiffers : ¬ Json.SameFound ((s.mergeAll ds).toJson.at? path)
      (((s.mergeAll ds).merge d.1 d.2).toJson.at? path)) :
    s.Recorded (ds ++ [d]) path (some ⟨previous, d.1⟩) := by
  intro change
  constructor
  · rintro ⟨rfl⟩
    refine ⟨ds.length, (lastChange_snoc_differs hdiffers).mpr rfl, ?_, by simp⟩
    rw [valueAfter_snoc le_rfl, valueAfter_length, hbefore]
  · rintro ⟨j, hlast, hprevious, hat⟩
    obtain rfl := (lastChange_snoc_differs hdiffers).mp hlast
    rw [valueAfter_snoc le_rfl, valueAfter_length, hbefore] at hprevious
    obtain ⟨value, changedAt⟩ := change
    obtain rfl : previous = value := Option.some.inj hprevious
    obtain rfl : d.1 = changedAt := by simpa using hat
    rfl

end Recorded

/-- With tracking on, the change that a leaf carries is its last one. -/
theorem recorded_mergeAll {s : Snapshot} (hs : s.Fresh true) {ds : List (Int × Json)}
    (hds : ∀ d ∈ ds, d.2.Canonical) {path : Path} {v : Json} {c : Option Change}
    (hleaf : (s.mergeAll ds).get? path = some (.leaf v c)) : s.Recorded ds path c := by
  induction ds using List.reverseRecOn generalizing v c with
  | nil =>
    have hnone := hs.change? path
    rw [Snapshot.change?, show s.get? path = _ from hleaf] at hnone
    obtain rfl : c = none := hnone
    intro change
    constructor
    · nofun
    · rintro ⟨j, hlast, -⟩
      exact absurd hlast.lt (Nat.not_lt_zero j)
  | append_singleton ds d ih =>
    have hearlier : ∀ e ∈ ds, e.2.Canonical := fun e he => hds e (List.mem_append_left [d] he)
    have hreach := hs.reachable hearlier
    have hd : d.2.Canonical := hds d (by simp)
    rw [mergeAll_snoc] at hleaf
    have hafter := value_of_leaf (hreach.merge d.1 hd) hleaf
    have hbefore : (s.mergeAll ds).toJson.at? path =
        ((s.mergeAll ds).get? path).map Node.toJson := Node.at?_toJson path hreach.tidy
    have hleaves := leaves_merge hreach d.1 hd hleaf
    generalize hold : (s.mergeAll ds).get? path = old at hleaves hbefore
    cases hleaves with
    | kept =>
      refine (ih hearlier hold).snoc_same ?_
      rw [hbefore, hafter]
      exact .refl _
    | fresh =>
      refine recorded_snoc_fresh hbefore ?_
      rw [hbefore, hafter]
      exact Json.not_sameFound_none v
    | @overwritten n v hne =>
      have hchange : Stamp.changeOf ⟨(s.mergeAll ds).track, d.1⟩ n = some ⟨n.toJson, d.1⟩ := by
        rw [track_mergeAll, hs.track_eq]
        rfl
      rw [hchange]
      refine recorded_snoc_overwritten hbefore ?_
      rw [hbefore, hafter]
      exact Json.not_sameFound_some hne

/-- With tracking off, no node carries a change. -/
theorem Reachable.change?_untracked {s : Snapshot} (hs : s.Reachable) (h : s.track = false)
    (path : Path) : s.change? path = none := by
  induction hs with
  | empty track => exact (Fresh.empty : Fresh track _).change? path
  | ofJson track hv => exact (Fresh.ofJson hv : Fresh track _).change? path
  | @merge now d hd s hs ih =>
    rw [track_merge] at h
    have hnone := ih h
    rw [change?, Option.bind_eq_none_iff]
    intro n hn
    cases n with
    | object kind fields => rfl
    | leaf v c =>
      have hcases := leaves_merge hs now hd hn
      rw [change?] at hnone
      generalize s.get? path = old at hcases hnone
      cases hcases with
      | kept => exact hnone
      | fresh => rfl
      | @overwritten n v hne =>
        change Stamp.changeOf ⟨s.track, now⟩ n = none
        rw [h]
        exact hnone

theorem change?_untracked {s : Snapshot} (hs : s.Fresh false) {ds : List (Int × Json)}
    (hds : ∀ d ∈ ds, d.2.Canonical) (path : Path) : (s.mergeAll ds).change? path = none := by
  refine (hs.reachable hds).change?_untracked ?_ path
  rw [track_mergeAll, hs.track_eq]

/-- Provenance is exactly the last change. With tracking on, a leaf carries a change just
if some merge changed the value at its path and something was there before the last such
merge; the change then holds the value of that moment, an object as a whole, and the time
of that merge. With tracking off no node carries any. -/
theorem change_is_last {track : Bool} {s : Snapshot} (hs : s.Fresh track)
    {ds : List (Int × Json)} (hds : ∀ d ∈ ds, d.2.Canonical) :
    (track = true → ∀ path v c, (s.mergeAll ds).get? path = some (.leaf v c) →
      ∀ change, (s.mergeAll ds).change? path = some change ↔
        ∃ j, s.LastChange ds path j ∧ s.valueAfter ds path j = some change.previous ∧
          (ds[j]?).map Prod.fst = some change.changedAt) ∧
    (track = false → ∀ path, (s.mergeAll ds).change? path = none) := by
  constructor
  · rintro rfl path v c hleaf change
    rw [change?, hleaf]
    exact recorded_mergeAll hs hds hleaf change
  · rintro rfl path
    exact change?_untracked hs hds path

/-- An object gives way to a text, which is sent once more; the change still tells of
the whole object, and of the first of the two merges. -/
theorem change_is_last_resent :
    let s := Snapshot.ofJson true (.obj [("a", .obj [("x", .null)])])
    let ds : List (Int × Json) :=
      [(1, .obj [("a", .obj [("y", .bool true)])]), (2, .obj [("a", .str "b")]),
       (3, .obj [("a", .str "b")])]
    (s.mergeAll ds).change? ["a"] = some ⟨.obj [("x", .null), ("y", .bool true)], 2⟩ ∧
      ∃ j, s.LastChange ds ["a"] j ∧
        s.valueAfter ds ["a"] j = some (.obj [("x", .null), ("y", .bool true)]) ∧
        (ds[j]?).map Prod.fst = some 2 := by
  intro s ds
  have fresh : s.Fresh true := .ofJson ⟨by decide, ⟨by decide, trivial, trivial⟩, trivial⟩
  have canonical : ∀ d ∈ ds, d.2.Canonical := by
    have first : (Json.obj [("a", .obj [("y", .bool true)])]).Canonical :=
      ⟨by decide, ⟨by decide, trivial, trivial⟩, trivial⟩
    have later : (Json.obj [("a", .str "b")]).Canonical := ⟨by decide, trivial, trivial⟩
    simp only [ds, List.forall_mem_cons]
    exact ⟨first, later, later, nofun⟩
  have changed : (s.mergeAll ds).change? ["a"] =
      some ⟨.obj [("x", .null), ("y", .bool true)], 2⟩ := by
    subst ds s
    rfl
  have leaf : ∃ c, (s.mergeAll ds).get? ["a"] = some (.leaf (.str "b") c) := by
    subst ds s
    exact ⟨_, rfl⟩
  obtain ⟨c, leaf⟩ := leaf
  exact ⟨changed, ((change_is_last fresh canonical).1 rfl ["a"] (.str "b") c leaf _).mp changed⟩

end Snapshot

end TopicClient
