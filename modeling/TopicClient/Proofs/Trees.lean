import TopicClient.Snapshot.Node
import TopicClient.Proofs.Patch

/-!
# The tree and its value

The tree of a snapshot never repeats a field and never hides an object in a leaf.
Then its fields are the members of its value, and a path leads to the same place
in both.
-/

namespace TopicClient

namespace Node

mutual

/-- No field repeats at any level, and no leaf holds an object. -/
def Tidy : Node → Prop
  | .leaf v _ => v.isObject = false
  | .object _ fs => Assoc.Distinct fs ∧ TidyFields fs
termination_by structural n => n

def TidyFields : List (String × Node) → Prop
  | [] => True
  | (_, n) :: fs => n.Tidy ∧ TidyFields fs
termination_by structural fs => fs

end

theorem tidyFields_iff {fs : List (String × Node)} (h : Assoc.Distinct fs) :
    TidyFields fs ↔ ∀ key n, Assoc.find? key fs = some n → n.Tidy := by
  induction fs with
  | nil => simp [TidyFields, Assoc.find?]
  | cons e fs ih =>
    obtain ⟨k, n⟩ := e
    obtain ⟨fresh, rest⟩ := Assoc.distinct_cons.mp h
    rw [TidyFields, ih rest]
    constructor
    · rintro ⟨hn, hfs⟩ key m hm
      by_cases hk : k = key
      · obtain rfl : n = m := by simpa [Assoc.find?, hk] using hm
        exact hn
      · exact hfs key m (by simpa [Assoc.find?, hk] using hm)
    · intro hall
      refine ⟨hall k n (by simp [Assoc.find?]), ?_⟩
      intro key m hm
      have hk : k ≠ key := by
        rintro rfl
        exact fresh (Assoc.find?_isSome_iff.mp (by simp [hm]))
      exact hall key m (by simpa [Assoc.find?, hk] using hm)

theorem Tidy.fields_distinct {n : Node} (h : n.Tidy) : Assoc.Distinct n.fields := by
  cases n with
  | leaf v c => exact List.nodup_nil
  | object k fs => exact h.1

theorem Tidy.field {n m : Node} {key : String} (h : n.Tidy) (hm : n.field? key = some m) :
    m.Tidy := by
  cases n with
  | leaf v c => simp [field?, fields, Assoc.find?] at hm
  | object k fs => exact (tidyFields_iff h.1).mp h.2 key m hm

theorem Tidy.get? (path : Path) {n m : Node} (hn : n.Tidy) (h : n.get? path = some m) :
    m.Tidy := by
  induction path generalizing n with
  | nil =>
    obtain rfl : n = m := Option.some.inj h
    exact hn
  | cons key path ih =>
    obtain ⟨child, hchild, hm⟩ := Option.bind_eq_some_iff.mp h
    exact ih (hn.field hchild) hm

theorem get?_append (path rest : Path) (n : Node) :
    n.get? (path ++ rest) = (n.get? path).bind (get? rest) := by
  induction path generalizing n with
  | nil => rfl
  | cons key path ih =>
    rw [List.cons_append, get?, get?]
    cases n.field? key with
    | none => rfl
    | some m => exact ih m

theorem get?_snoc (path : Path) (key : String) (n : Node) :
    n.get? (path ++ [key]) = (n.get? path).bind (field? key) := by
  rw [get?_append]
  cases n.get? path with
  | none => rfl
  | some m =>
    rw [Option.bind_some, Option.bind_some, get?]
    cases m.field? key <;> rfl

theorem tidy_object {kind : NodeKind} {fs : List (String × Node)} (h : Assoc.Distinct fs)
    (hfs : ∀ key n, Assoc.find? key fs = some n → n.Tidy) : (object kind fs).Tidy :=
  ⟨h, (tidyFields_iff h).mpr hfs⟩

theorem keys_ofMembers (ms : List (String × Json)) :
    Assoc.keys (ofMembers ms) = Assoc.keys ms := by
  induction ms with
  | nil => rfl
  | cons e ms ih => simp [ofMembers, ih]

theorem keys_toMembers (fs : List (String × Node)) :
    Assoc.keys (toMembers fs) = Assoc.keys fs := by
  induction fs with
  | nil => rfl
  | cons e fs ih => simp [toMembers, ih]

theorem find?_toMembers (key : String) (fs : List (String × Node)) :
    Assoc.find? key (toMembers fs) = (Assoc.find? key fs).map toJson := by
  induction fs with
  | nil => rfl
  | cons e fs ih =>
    obtain ⟨k, n⟩ := e
    by_cases hk : k = key <;> simp [toMembers, Assoc.find?, hk, ih]

/-- The members of the value are the fields of the node. -/
theorem find?_members_toJson {n : Node} (h : n.Tidy) (key : String) :
    Assoc.find? key n.toJson.members = (n.field? key).map toJson := by
  cases n with
  | leaf v c =>
    have hv : v.members = [] := by
      cases v with
      | obj ms => simp [Tidy, Json.isObject] at h
      | _ => rfl
    simp [toJson, hv, field?, fields, Assoc.find?]
  | object k fs =>
    have hdistinct : Assoc.Distinct (toMembers fs) := by
      rw [Assoc.Distinct, keys_toMembers]
      exact h.1
    have hsorted := Assoc.find?_ofListSorted hdistinct key
    rw [find?_toMembers] at hsorted
    exact hsorted

theorem ascending_members_toJson {n : Node} (h : n.Tidy) :
    Assoc.Ascending n.toJson.members := by
  cases n with
  | leaf v c =>
    cases v with
    | obj ms => simp [Tidy, Json.isObject] at h
    | _ => exact List.Pairwise.nil
  | object k fs => exact Assoc.ascending_ofListSorted (toMembers fs)

/-- Paths lead to the same places in the value and in the tree. -/
theorem at?_toJson (path : Path) {n : Node} (h : n.Tidy) :
    n.toJson.at? path = (n.get? path).map toJson := by
  induction path generalizing n with
  | nil => rfl
  | cons key path ih =>
    rw [Json.at?, get?, Json.member?, find?_members_toJson h]
    cases hm : n.field? key with
    | none => rfl
    | some m => exact ih (h.field hm)

mutual

theorem tidy_ofJson (v : Json) (h : v.Canonical) : (ofJson v).Tidy := by
  cases v with
  | obj ms => exact ⟨by
      rw [Assoc.Distinct, keys_ofMembers]
      exact Assoc.distinct_of_ascending h.1, tidyFields_ofMembers ms h.2⟩
  | null => rfl
  | bool b => rfl
  | num n => rfl
  | str s => rfl
  | arr xs => rfl
termination_by structural v

theorem tidyFields_ofMembers (ms : List (String × Json)) (h : Json.CanonicalMembers ms) :
    TidyFields (ofMembers ms) := by
  match ms with
  | [] => trivial
  | (key, v) :: ms => exact ⟨tidy_ofJson v h.1, tidyFields_ofMembers ms h.2⟩
termination_by structural ms

end

end Node

end TopicClient
