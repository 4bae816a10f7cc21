import Mathlib.Data.List.Sort
import Mathlib.Data.Prod.Lex
import TopicClient.Proofs.Merges

/-!
# Lists that are always current

A list that is asked for shows the objects below the path as they are now, in the order that
their values ask for, whatever lists of the snapshot or of the one that it was copied from
have been computed before. Every merge forgets the orders that it may have changed.
-/

namespace TopicClient

namespace Json

/-- The number by which an object is listed; zero if it has none. -/
def listOrder (v : Json) : Double := ((v.member? "order").bind double?).getD .zero

/-- The text by which an object is listed; empty if it has none. -/
def listName (v : Json) : String := ((v.member? "name").bind str?).getD ""

/-- By the number, then by the text, then by the key. -/
def ListedBefore (a b : String × Json) : Prop :=
  a.2.listOrder.orderKey < b.2.listOrder.orderKey ∨
    (a.2.listOrder.orderKey = b.2.listOrder.orderKey ∧
      (a.2.listName < b.2.listName ∨ (a.2.listName = b.2.listName ∧ a.1 < b.1)))

end Json

namespace Node

theorem bind_value? {β : Type} {f : Json → Option β} (hf : ∀ ms, f (.obj ms) = none)
    (n : Node) : n.value?.bind f = f n.toJson := by
  cases n with
  | leaf v c => rfl
  | object kind fs => exact (hf _).symm

/-- What is read off a field is read off the member of the value. -/
theorem bind_field? {β : Type} {f : Json → Option β} (hf : ∀ ms, f (.obj ms) = none) {n : Node}
    (h : n.Tidy) (key : String) :
    ((n.field? key).bind value?).bind f = (n.toJson.member? key).bind f := by
  rw [Json.member?, find?_members_toJson h]
  cases n.field? key with
  | none => rfl
  | some m => exact bind_value? hf m

theorem sortOrder_eq {n : Node} (h : n.Tidy) : n.sortOrder = n.toJson.listOrder := by
  rw [sortOrder, bind_field? (fun _ => rfl) h, Json.listOrder]

theorem sortName_eq {n : Node} (h : n.Tidy) : n.sortName = n.toJson.listName := by
  rw [sortName, bind_field? (fun _ => rfl) h, Json.listName]

/-- The place of a field in a list. -/
def rank (e : String × Node) : Int ×ₗ String ×ₗ String :=
  toLex (e.2.sortOrder.orderKey, toLex (e.2.sortName, e.1))

theorem listedBefore_iff (a b : String × Node) : listedBefore a b = true ↔ rank a ≤ rank b := by
  change (decide (a.2.sortOrder.orderKey < b.2.sortOrder.orderKey) ||
    (a.2.sortOrder.orderKey == b.2.sortOrder.orderKey && (decide (a.2.sortName < b.2.sortName) ||
      (a.2.sortName == b.2.sortName && !decide (b.1 < a.1))))) = true ↔ _
  simp only [rank, Prod.Lex.toLex_le_toLex, Bool.or_eq_true, Bool.and_eq_true,
    decide_eq_true_eq, beq_iff_eq, Bool.not_eq_true', decide_eq_false_iff_not, not_lt]

theorem rank_lt_iff {a b : String × Node} (ha : a.2.Tidy) (hb : b.2.Tidy) :
    rank a < rank b ↔ Json.ListedBefore (a.1, a.2.toJson) (b.1, b.2.toJson) := by
  rw [Json.ListedBefore, ← sortOrder_eq ha, ← sortOrder_eq hb, ← sortName_eq ha, ← sortName_eq hb]
  simp only [rank, Prod.Lex.toLex_lt_toLex]

/-- The keys of a list are the last parts of the sorted places. -/
theorem keys_listView (n : Node) :
    Assoc.keys n.listView =
      (((n.fields.filter isListed).map rank).insertionSort (· ≤ ·)).map fun r =>
        (ofLex (ofLex r).2).2 := by
  have hplaces : n.listView.map rank =
      ((n.fields.filter isListed).map rank).insertionSort (· ≤ ·) := by
    rw [listView, ← List.mergeSort_eq_insertionSort]
    refine List.map_mergeSort fun a _ b _ => ?_
    rw [Bool.eq_iff_iff, listedBefore_iff, decide_eq_true_iff]
  rw [← hplaces, List.map_map]
  rfl

section ListView
variable {n : Node}

theorem distinct_listView (h : n.Tidy) : Assoc.Distinct n.listView := by
  have hfields : Assoc.Distinct (n.fields.filter isListed) :=
    h.fields_distinct.sublist (List.filter_sublist.map Prod.fst)
  exact ((List.mergeSort_perm _ _).map Prod.fst).nodup_iff.mpr hfields

/-- The list shows the fields that are objects and are not hidden, and nothing else. -/
theorem mem_listView (h : n.Tidy) {key : String} {m : Node} :
    (key, m) ∈ n.listView ↔
      n.field? key = some m ∧ m.isObject = true ∧ key.startsWith "_" = false := by
  have hfield : (key, m) ∈ n.fields ↔ n.field? key = some m :=
    ⟨Assoc.find?_of_mem h.fields_distinct, Assoc.mem_of_find?⟩
  rw [listView, List.mem_mergeSort, List.mem_filter, hfield]
  simp [isListed]

theorem tidy_of_mem_listView (h : n.Tidy) {e : String × Node} (he : e ∈ n.listView) :
    e.2.Tidy :=
  h.field ((mem_listView h).mp he).1

theorem sorted_listView (h : n.Tidy) : n.listView.Pairwise fun a b => rank a < rank b := by
  have hsorted : n.listView.Pairwise fun a b => listedBefore a b = true := by
    refine List.pairwise_mergeSort ?_ ?_ _
    · intro a b c hab hbc
      rw [listedBefore_iff] at hab hbc ⊢
      exact hab.trans hbc
    · intro a b
      rw [Bool.or_eq_true, listedBefore_iff, listedBefore_iff]
      exact le_total _ _
  -- Two fields never share a key, so no two of them have the same place.
  have hkeys : n.listView.Pairwise fun a b => a.1 ≠ b.1 := List.pairwise_map.mp (distinct_listView h)
  refine (hsorted.and hkeys).imp ?_
  intro a b hboth
  refine lt_of_le_of_ne ((listedBefore_iff a b).mp hboth.1) ?_
  intro heq
  simp only [rank, toLex_inj, Prod.mk.injEq] at heq
  exact hboth.2 heq.2.2

end ListView

end Node

namespace Snapshot
variable {s : Snapshot}

theorem distinct_listView (hs : s.Reachable) (path : Path) :
    Assoc.Distinct (s.listView path) := by
  rw [listView]
  cases hfound : s.get? path with
  | none => exact List.nodup_nil
  | some n => exact Node.distinct_listView (hs.tidy.get? path hfound)

theorem mem_listView (hs : s.Reachable) {path : Path} {key : String} {m : Node} :
    (key, m) ∈ s.listView path ↔
      s.get? (path ++ [key]) = some m ∧ m.isObject = true ∧ key.startsWith "_" = false := by
  have hat : s.get? (path ++ [key]) = (s.get? path).bind (Node.get? [key]) :=
    Node.get?_append path [key] s.root
  rw [listView, hat]
  cases hfound : s.get? path with
  | none => simp
  | some n =>
    have hchild : n.get? [key] = n.field? key := by
      rw [Node.get?]
      cases n.field? key <;> rfl
    rw [Option.bind_some, hchild]
    exact Node.mem_listView (hs.tidy.get? path hfound)

theorem sorted_listView (hs : s.Reachable) (path : Path) :
    ((s.listView path).map fun e => (e.1, e.2.toJson)).Pairwise Json.ListedBefore := by
  rw [List.pairwise_map, listView]
  cases hfound : s.get? path with
  | none => exact .nil
  | some n =>
    have htidy := hs.tidy.get? path hfound
    refine (Node.sorted_listView htidy).imp_of_mem ?_
    intro a b ha hb hlt
    exact (Node.rank_lt_iff (Node.tidy_of_mem_listView htidy ha)
      (Node.tidy_of_mem_listView htidy hb)).mp hlt

/-- What a diff does not reach stays the same node. -/
theorem get?_merge (hs : s.Reachable) {d : Json} (hd : d.Canonical) (now : Int) {path : Path}
    (hpath : d.isObject = true → d.reaches path = false) :
    (s.merge now d).get? path = s.get? path := by
  cases hobj : d.isObject with
  | false => rw [merge_of_not_object now hobj]
  | true => exact Node.get?_merge _ path hd hs.tidy (root_merge now hobj s) (hpath hobj)

end Snapshot

namespace Gallery

/-- The orders that a gallery knows are those of its lists as they are now. -/
structure Current (g : Gallery) : Prop where
  reachable : g.snapshot.Reachable
  known : ∀ path keys, Assoc.find? path g.orders = some keys →
    keys = Assoc.keys (g.snapshot.listView path)

section Current
variable {g : Gallery}

theorem current_ofSnapshot {s : Snapshot} (hs : s.Reachable) : (ofSnapshot s).Current :=
  ⟨hs, nofun⟩

theorem Current.merge (h : g.Current) {d : Json} (hd : d.Canonical) (now : Int) :
    (g.merge now d).Current where
  reachable := h.reachable.merge now hd
  known := by
    intro path keys hknown
    have hkept : (d.isObject = true → d.reaches path = false) ∧
        Assoc.find? path g.orders = some keys := by
      cases hobj : d.isObject with
      | false => exact ⟨nofun, by simpa [Gallery.merge, hobj] using hknown⟩
      | true =>
        simp only [Gallery.merge, hobj, if_true] at hknown
        cases hreach : d.reaches path with
        | true =>
          rw [Assoc.find?_filter_gone (p := fun place => !d.reaches place) (by simp [hreach])]
            at hknown
          cases hknown
        | false =>
          rw [Assoc.find?_filter (p := fun place => !d.reaches place) (by simp [hreach])] at hknown
          exact ⟨fun _ => rfl, hknown⟩
    rw [h.known path keys hkept.2]
    change _ = Assoc.keys ((g.snapshot.merge now d).listView path)
    rw [Snapshot.listView, Snapshot.listView, Snapshot.get?_merge h.reachable hd now hkept.1]

theorem Current.order_eq (h : g.Current) (path : Path) :
    g.order path = Assoc.keys (g.snapshot.listView path) := by
  rw [order]
  cases hknown : Assoc.find? path g.orders with
  | none => rfl
  | some keys => exact h.known path keys hknown

theorem listing_keys (path : Path) {entries : List (String × Node)}
    (h : ∀ e ∈ entries, g.snapshot.get? (path ++ [e.1]) = some e.2 ∧ e.2.isObject = true) :
    g.listing path (Assoc.keys entries) = entries := by
  induction entries with
  | nil => rfl
  | cons e entries ih =>
    obtain ⟨key, n⟩ := e
    obtain ⟨hfound, hobject⟩ := h _ List.mem_cons_self
    rw [Assoc.keys_cons, listing, hfound, ih fun e he => h e (List.mem_cons_of_mem _ he)]
    cases n with
    | leaf v c => cases hobject
    | object kind fs => rfl

theorem Current.list_eq (h : g.Current) (path : Path) :
    (g.list path).1 = g.snapshot.listView path := by
  rw [list, h.order_eq]
  refine listing_keys path fun e he => ?_
  obtain ⟨hfound, hobject, -⟩ := (Snapshot.mem_listView h.reachable).mp he
  exact ⟨hfound, hobject⟩

theorem Current.list (h : g.Current) (path : Path) : (g.list path).2.Current where
  reachable := h.reachable
  known := by
    intro place keys hknown
    change keys = Assoc.keys (g.snapshot.listView place)
    simp only [Gallery.list] at hknown
    split at hknown
    · by_cases hplace : place = path
      · subst hplace
        rw [Assoc.find?_put_self, Option.some.injEq] at hknown
        rw [← hknown, h.order_eq]
      · rw [Assoc.find?_put_of_ne hplace] at hknown
        exact h.known place keys hknown
    · exact h.known place keys hknown

end Current

/-- What is done with snapshots that are copied, each told by its place among the copies. -/
inductive Act where
  | merge (copy : Nat) (now : Int) (diff : Json)
  | list (copy : Nat) (path : Path)
  | clone (copy : Nat)

/-- A clone comes last, with the orders that are known to the snapshot it is taken of. -/
def Act.apply (gs : List Gallery) : Act → List Gallery
  | .merge i now d => gs.modify i (Gallery.merge now d)
  | .list i path => gs.modify i fun g => (g.list path).2
  | .clone i => gs ++ gs[i]?.toList

def run (gs : List Gallery) (acts : List Act) : List Gallery :=
  acts.foldl Act.apply gs

theorem mem_modify {α : Type} {f : α → α} {xs : List α} {i : Nat} {y : α}
    (h : y ∈ xs.modify i f) : y ∈ xs ∨ ∃ x ∈ xs, y = f x := by
  obtain ⟨j, hj⟩ := List.mem_iff_getElem?.mp h
  rw [List.getElem?_modify] at hj
  obtain ⟨x, hx, rfl⟩ := Option.map_eq_some_iff.mp hj
  have hmem := List.mem_of_getElem? hx
  by_cases hij : i = j
  · exact .inr ⟨x, hmem, if_pos hij ▸ rfl⟩
  · exact .inl (by simpa [hij] using hmem)

theorem current_apply {gs : List Gallery} (hgs : ∀ g ∈ gs, g.Current) {act : Act}
    (hact : ∀ i now d, act = .merge i now d → d.Canonical) : ∀ g ∈ act.apply gs, g.Current := by
  intro g hg
  cases act with
  | merge i now d =>
    rcases mem_modify hg with hg | ⟨old, hold, rfl⟩
    · exact hgs g hg
    · exact (hgs old hold).merge (hact i now d rfl) now
  | list i path =>
    rcases mem_modify hg with hg | ⟨old, hold, rfl⟩
    · exact hgs g hg
    · exact (hgs old hold).list path
  | clone i =>
    rcases List.mem_append.mp hg with hg | hg
    · exact hgs g hg
    · exact hgs g (List.mem_of_getElem? (Option.mem_toList.mp hg))

theorem current_run {gs : List Gallery} (hgs : ∀ g ∈ gs, g.Current) {acts : List Act}
    (hacts : ∀ i now d, .merge i now d ∈ acts → d.Canonical) : ∀ g ∈ run gs acts, g.Current := by
  induction acts generalizing gs with
  | nil => exact hgs
  | cons act acts ih =>
    refine ih (current_apply hgs ?_) fun i now d h => hacts i now d (List.mem_cons_of_mem _ h)
    rintro i now d rfl
    exact hacts i now d List.mem_cons_self

/-- The list view of a snapshot is never stale. After any merges, clones and lists, the list
of the object at a path shows once each of its fields that are objects and are not hidden,
and nothing else, in the order of their values; it depends on the tree alone, and showing it
leaves the snapshot as it is. -/
theorem lists_current {s : Snapshot} (hs : s.Reachable) {acts : List Act}
    (hacts : ∀ i now d, .merge i now d ∈ acts → d.Canonical) {g : Gallery}
    (hg : g ∈ run [ofSnapshot s] acts) (path : Path) :
    Assoc.Distinct (g.list path).1 ∧
      (∀ key n, (key, n) ∈ (g.list path).1 ↔ g.snapshot.get? (path ++ [key]) = some n ∧
        n.isObject = true ∧ key.startsWith "_" = false) ∧
      ((g.list path).1.map fun e => (e.1, e.2.toJson)).Pairwise Json.ListedBefore ∧
      (g.list path).1 = ((g.snapshot.root.get? path).map Node.listView).getD [] ∧
      (g.list path).2.snapshot = g.snapshot := by
  have hstart : ∀ g ∈ [ofSnapshot s], g.Current := by
    intro g hg
    rw [List.mem_singleton.mp hg]
    exact current_ofSnapshot hs
  have hcurrent := current_run hstart hacts g hg
  rw [hcurrent.list_eq path]
  exact ⟨Snapshot.distinct_listView hcurrent.reachable path,
    fun key n => Snapshot.mem_listView hcurrent.reachable,
    Snapshot.sorted_listView hcurrent.reachable path, rfl, rfl⟩

/-- A snapshot whose list is known is cloned and then merged into: it shows the new order, and
the clone the old one. -/
theorem lists_current_cloned :
    let s := Snapshot.ofJson true (.obj [("_z", .obj []), ("a", .obj [("order", .int 1)]),
      ("b", .obj [("order", .int 2)]), ("c", .obj [("name", .str "c")])])
    let acts : List Act := [.list 0 [], .clone 0,
      .merge 0 5 (.obj [("a", .obj [("order", .int 3)]), ("c", .null)]), .list 1 []]
    s.Reachable ∧ (∀ i now d, .merge i now d ∈ acts → d.Canonical) ∧
      (run [ofSnapshot s] acts).map (fun g => Assoc.keys (g.list []).1) =
        [["b", "a"], ["c", "a", "b"]] ∧
      ∀ g ∈ run [ofSnapshot s] acts,
        ((g.list []).1.map fun e => (e.1, e.2.toJson)).Pairwise Json.ListedBefore ∧
          (g.list []).1 = ((g.snapshot.root.get? []).map Node.listView).getD [] := by
  intro s acts
  have number : ∀ i : Int, 0 ≤ i → i < 4 → (Json.int i).Canonical :=
    fun i hlow hhigh => ⟨by omega, by omega⟩
  have reachable : s.Reachable :=
    .ofJson true ⟨by decide, ⟨by decide, trivial⟩,
      ⟨by decide, number 1 (by decide) (by decide), trivial⟩,
      ⟨by decide, number 2 (by decide) (by decide), trivial⟩, ⟨by decide, trivial, trivial⟩,
      trivial⟩
  have canonical : ∀ i now d, .merge i now d ∈ acts → d.Canonical := by
    intro i now d h
    obtain ⟨-, -, rfl⟩ : i = 0 ∧ now = 5 ∧
        d = .obj [("a", .obj [("order", .int 3)]), ("c", .null)] := by simpa [acts] using h
    exact ⟨by decide, ⟨by decide, number 3 (by decide) (by decide), trivial⟩, trivial, trivial⟩
  have shown : ∀ g ∈ run [ofSnapshot s] acts,
      ((g.list []).1.map fun e => (e.1, e.2.toJson)).Pairwise Json.ListedBefore ∧
        (g.list []).1 = ((g.snapshot.root.get? []).map Node.listView).getD [] := by
    intro g hg
    obtain ⟨-, -, sorted, current, -⟩ := lists_current reachable canonical hg []
    exact ⟨sorted, current⟩
  have roots : (run [ofSnapshot s] acts).map (·.snapshot.root) =
      [(s.merge 5 (.obj [("a", .obj [("order", .int 3)]), ("c", .null)])).root, s.root] := by
    simp [run, acts, Act.apply, Gallery.list, Gallery.merge, ofSnapshot]
  have keys : (run [ofSnapshot s] acts).map (fun g => Assoc.keys (g.list []).1) =
      ((run [ofSnapshot s] acts).map (·.snapshot.root)).map fun n => Assoc.keys n.listView := by
    rw [List.map_map]
    refine List.map_congr_left fun g hg => ?_
    rw [(shown g hg).2]
    rfl
  refine ⟨reachable, canonical, ?_, shown⟩
  rw [keys, roots, List.map_cons, List.map_cons, List.map_nil, Node.keys_listView,
    Node.keys_listView]
  decide +kernel

end Gallery

end TopicClient
