import Mathlib.Data.List.Induction
import TopicClient.Proofs.Merges

/-!
# Edits of the parent index

A merge records and forgets parents at and below the places that the diff names. Every
other place keeps its parent, and no place ever has two.
-/

namespace TopicClient

namespace Parents

/-- A child of a struct and a child of a map have different parents. -/
theorem parentIn?_inj {kind other : NodeKind} {container : Path} :
    parentIn? kind container = parentIn? other container ↔ kind = other := by
  have hne : parentIn? .struct container ≠ parentIn? .map container := by
    cases container with
    | nil => nofun
    | cons key path =>
      intro h
      have hlen := congrArg List.length (Option.some.inj h)
      simp at hlen
  cases kind <;> cases other <;> simp [hne, hne.symm]

theorem parentIn?_isSome (kind : NodeKind) {container : Path} (h : container ≠ []) :
    (parentIn? kind container).isSome := by
  cases kind <;> simp [parentIn?, h]

/-- A parent is the container or the container's container. -/
theorem parentIn?_eq_some {kind : NodeKind} {container parent : Path} (key : String)
    (h : parentIn? kind container = some parent) :
    parent ++ [key] = container ++ [key] ∨ ∃ name, parent ++ [name, key] = container ++ [key] := by
  cases kind with
  | struct =>
    obtain rfl := Option.some.inj h
    exact .inl rfl
  | map =>
    cases container using List.reverseRecOn with
    | nil => cases h
    | append_singleton path name =>
      obtain rfl : path = parent := by simpa [parentIn?] using h
      exact .inr ⟨name, by simp⟩

theorem find?_record_self {ps : Parents} (h : Assoc.Distinct ps) (kind : NodeKind)
    (container : Path) (key : String) :
    Assoc.find? (container ++ [key]) (record kind container key ps) =
      parentIn? kind container := by
  rw [record]
  cases parentIn? kind container with
  | none => exact Assoc.find?_erase_self h
  | some parent => exact Assoc.find?_put_self _ parent ps

theorem find?_record_of_ne {kind : NodeKind} {container path : Path} {key : String}
    (h : path ≠ container ++ [key]) (ps : Parents) :
    Assoc.find? path (record kind container key ps) = Assoc.find? path ps := by
  rw [record]
  cases parentIn? kind container with
  | none => exact Assoc.find?_erase_of_ne h ps
  | some parent => exact Assoc.find?_put_of_ne h parent ps

/-- Recording the parent that a child has already changes nothing. -/
theorem record_of_find? {kind : NodeKind} {container : Path} {key : String} {ps : Parents}
    (h : Assoc.find? (container ++ [key]) ps = parentIn? kind container) :
    record kind container key ps = ps := by
  rw [record]
  cases hparent : parentIn? kind container with
  | none => exact Assoc.erase_of_not_mem (Assoc.find?_eq_none_iff.mp (h.trans hparent))
  | some parent => exact Assoc.put_of_find? (h.trans hparent)

theorem find?_forget_of_apart {top path : Path} (h : ¬ top <+: path) (ps : Parents) :
    Assoc.find? path (forget top ps) = Assoc.find? path ps := by
  have hkept : (!top.isPrefixOf path) = true := by
    rw [Bool.not_eq_true', Bool.eq_false_iff]
    exact fun hprefix => h (List.isPrefixOf_iff_prefix.mp hprefix)
  exact Assoc.find?_filter (p := fun place => !top.isPrefixOf place) hkept ps

/-- The second index comes from the first by records and forgetting at and below a place. -/
inductive Edited (top : Path) (ps : Parents) : Parents → Prop
  | refl : Edited top ps ps
  | record {qs : Parents} (h : Edited top ps qs) (kind : NodeKind) {container : Path}
      {key : String} (below : top <+: container ++ [key]) :
      Edited top ps (record kind container key qs)
  | forget {qs : Parents} (h : Edited top ps qs) {path : Path} (below : top <+: path) :
      Edited top ps (forget path qs)

namespace Edited
variable {top : Path} {ps qs rs : Parents}

theorem trans (first : Edited top ps qs) (second : Edited top qs rs) : Edited top ps rs := by
  induction second with
  | refl => exact first
  | record _ kind below ih => exact ih.record kind below
  | forget _ below ih => exact ih.forget below

theorem mono {above : Path} (h : Edited top ps qs) (hle : above <+: top) :
    Edited above ps qs := by
  induction h with
  | refl => exact .refl
  | record _ kind below ih => exact ih.record kind (hle.trans below)
  | forget _ below ih => exact ih.forget (hle.trans below)

theorem find?_apart (h : Edited top ps qs) {path : Path} (apart : ¬ top <+: path) :
    Assoc.find? path qs = Assoc.find? path ps := by
  induction h with
  | refl => rfl
  | record _ kind below ih =>
    rw [find?_record_of_ne ?_, ih]
    rintro rfl
    exact apart below
  | forget _ below ih =>
    rw [find?_forget_of_apart (fun h => apart (below.trans h)), ih]

theorem distinct (h : Edited top ps qs) (hps : Assoc.Distinct ps) : Assoc.Distinct qs := by
  induction h with
  | refl => exact hps
  | @record qs h kind container key below ih =>
    rw [Parents.record]
    cases parentIn? kind container with
    | none => exact Assoc.distinct_erase ih
    | some parent => exact Assoc.distinct_put ih
  | forget h below ih => exact ih.sublist (List.filter_sublist.map Prod.fst)

end Edited

mutual

theorem edited_merge (kind : NodeKind) (container : Path) (key : String) (old : Option Node)
    (ps : Parents) (d : Json) :
    Edited (container ++ [key]) ps (merge kind container key old ps d) := by
  cases d with
  | obj ms =>
    have first : Edited (container ++ [key]) ps ps := .refl
    exact (first.record kind List.prefix_rfl).trans (edited_mergeMembers _ _ _ _ ms)
  | null =>
    rw [merge]
    split
    · exact .forget .refl List.prefix_rfl
    · exact .refl
  | _ =>
    simp only [merge]
    split
    · exact .forget .refl List.prefix_rfl
    · exact .refl
termination_by structural d

theorem edited_mergeMembers (kind : NodeKind) (path : Path) (fields : List (String × Node))
    (ps : Parents) (ms : List (String × Json)) :
    Edited path ps (mergeMembers kind path fields ps ms) := by
  match ms with
  | [] => exact .refl
  | (key, d) :: ms =>
    exact ((edited_merge kind path key _ ps d).mono (List.prefix_append _ _)).trans
      (edited_mergeMembers kind path fields _ ms)
termination_by structural ms

end

mutual

theorem edited_ofJson (kind : NodeKind) (container : Path) (key : String) (ps : Parents)
    (v : Json) : Edited (container ++ [key]) ps (ofJson kind container key ps v) := by
  cases v with
  | obj ms =>
    have first : Edited (container ++ [key]) ps ps := .refl
    exact (first.record kind List.prefix_rfl).trans (edited_ofMembers _ _ _ ms)
  | _ => exact .refl
termination_by structural v

theorem edited_ofMembers (kind : NodeKind) (path : Path) (ps : Parents)
    (ms : List (String × Json)) : Edited path ps (ofMembers kind path ps ms) := by
  match ms with
  | [] => exact .refl
  | (key, v) :: ms =>
    exact ((edited_ofJson kind path key ps v).mono (List.prefix_append _ _)).trans
      (edited_ofMembers kind path _ ms)
termination_by structural ms

end

/-- The members of a diff leave alone what is at or below none of them. -/
theorem find?_mergeMembers_apart (kind : NodeKind) {path place : Path}
    (fields : List (String × Node)) (ps : Parents) {ms : List (String × Json)}
    (apart : ∀ key ∈ Assoc.keys ms, ¬ path ++ [key] <+: place) :
    Assoc.find? place (mergeMembers kind path fields ps ms) = Assoc.find? place ps := by
  induction ms generalizing ps with
  | nil => rfl
  | cons e ms ih =>
    obtain ⟨key, d⟩ := e
    rw [mergeMembers, ih _ fun k hk => apart k (List.mem_cons_of_mem _ hk)]
    exact (edited_merge kind path key _ ps d).find?_apart (apart key List.mem_cons_self)

theorem not_prefix_of_ne {path place : Path} {key other : String} (hne : other ≠ key)
    (h : path ++ [key] <+: place) : ¬ path ++ [other] <+: place := by
  intro hother
  have heq := (List.prefix_of_prefix_length_le hother h (by simp)).eq_of_length (by simp)
  exact hne (by simpa using heq)

theorem not_extended_prefix (path : Path) (key : String) : ¬ path ++ [key] <+: path := by
  intro h
  have hlen := h.length_le
  rw [List.length_append, List.length_singleton] at hlen
  omega

end Parents

namespace Snapshot

theorem Reachable.parents_distinct {s : Snapshot} (h : s.Reachable) :
    Assoc.Distinct s.parents := by
  induction h with
  | empty track => exact List.nodup_nil
  | ofJson track hv => exact (Parents.edited_ofMembers _ [] [] _).distinct List.nodup_nil
  | @merge now d hd s hs ih =>
    cases d with
    | obj ms =>
      refine (Parents.edited_mergeMembers _ [] s.root.fields _ ms).distinct ?_
      split
      · exact ih
      · exact List.nodup_nil
    | _ => exact ih

end Snapshot

end TopicClient
