import TopicClient.Snapshot.Node
import TopicClient.Proofs.Equality

/-!
# Patches of a plain value

A diff read without any tree: it deletes, patches and stores the members of a plain
value. What becomes of a member is decided by the diff of that member alone.
-/

namespace TopicClient

namespace Json

/-- The value at a path, reached through objects. -/
def at? : Path → Json → Option Json
  | [], v => some v
  | key :: path, v => (v.member? key).bind (at? path)

theorem at?_snoc (path : Path) (key : String) (v : Json) :
    v.at? (path ++ [key]) = (v.at? path).bind (member? key) := by
  induction path generalizing v with
  | nil =>
    rw [List.nil_append, at?, at?, Option.bind_some]
    cases v.member? key <;> rfl
  | cons k path ih =>
    rw [List.cons_append, at?, at?]
    cases v.member? k with
    | none => rfl
    | some w => exact ih w

mutual

/-- The value after a diff. A diff that is no object leaves it alone; any other turns
a value that is no object into an empty one first. -/
def patch (v : Json) : Json → Json
  | .obj ds => .obj (patchMembers v.members ds)
  | _ => v
termination_by structural d => d

/-- Member by member: null deletes, an object patches and anything else is stored. -/
def patchMembers (ms : List (String × Json)) : List (String × Json) → List (String × Json)
  | [] => ms
  | (key, d) :: ds =>
    patchMembers
      (if d.isNull then Assoc.erase key ms
       else if d.isObject then
         Assoc.insert key (patch ((Assoc.find? key ms).getD (.obj [])) d) ms
       else Assoc.insert key d ms) ds
termination_by structural ds => ds

end

/-- A member after its diff, with absence on either side. -/
def patched? (old : Option Json) (d : Json) : Option Json :=
  if d.isNull then none
  else if d.isObject then some ((old.getD (.obj [])).patch d)
  else some d

mutual

theorem members_rec {motive : Json → Prop}
    (obj : ∀ ms, (∀ key v, Assoc.find? key ms = some v → motive v) → motive (.obj ms))
    (other : ∀ v, v.isObject = false → motive v) (v : Json) : motive v := by
  cases v with
  | obj ms => exact obj ms (found_rec obj other ms)
  | null => exact other _ rfl
  | bool b => exact other _ rfl
  | num n => exact other _ rfl
  | str s => exact other _ rfl
  | arr xs => exact other _ rfl
termination_by structural v

theorem found_rec {motive : Json → Prop}
    (obj : ∀ ms, (∀ key v, Assoc.find? key ms = some v → motive v) → motive (.obj ms))
    (other : ∀ v, v.isObject = false → motive v) (ms : List (String × Json)) :
    ∀ key v, Assoc.find? key ms = some v → motive v := by
  match ms with
  | [] =>
    intro key v h
    simp [Assoc.find?] at h
  | (k, w) :: ms =>
    intro key v h
    by_cases hk : k = key
    · obtain rfl : w = v := by simpa [Assoc.find?, hk] using h
      exact members_rec obj other w
    · exact found_rec obj other ms key v (by simpa [Assoc.find?, hk] using h)
termination_by structural ms

end

theorem canonical_of_find? {key : String} {v : Json} {ms : List (String × Json)}
    (h : CanonicalMembers ms) (hv : Assoc.find? key ms = some v) : v.Canonical := by
  induction ms with
  | nil => simp [Assoc.find?] at hv
  | cons e ms ih =>
    obtain ⟨k, w⟩ := e
    by_cases hk : k = key
    · obtain rfl : w = v := by simpa [Assoc.find?, hk] using hv
      exact h.1
    · exact ih h.2 (by simpa [Assoc.find?, hk] using hv)

/-- A member set to what it has become. -/
def setMember (key : String) (ms : List (String × Json)) :
    Option Json → List (String × Json)
  | none => Assoc.erase key ms
  | some v => Assoc.insert key v ms

theorem patchMembers_eq_foldl (ds ms : List (String × Json)) :
    patchMembers ms ds =
      ds.foldl (fun ms e => setMember e.1 ms (patched? (Assoc.find? e.1 ms) e.2)) ms := by
  induction ds generalizing ms with
  | nil => rfl
  | cons e ds ih =>
    obtain ⟨key, d⟩ := e
    rw [List.foldl_cons, ← ih, patchMembers, patched?]
    by_cases hnull : d.isNull
    · simp only [if_pos hnull, setMember]
    · by_cases hobj : d.isObject
      · simp only [if_neg hnull, if_pos hobj, setMember]
      · simp only [if_neg hnull, if_neg hobj, setMember]

theorem ascending_setMember {key : String} {ms : List (String × Json)}
    (h : Assoc.Ascending ms) (v : Option Json) : Assoc.Ascending (setMember key ms v) := by
  cases v with
  | none => exact Assoc.ascending_erase h
  | some v => exact Assoc.ascending_insert h

theorem find?_setMember_self {key : String} {ms : List (String × Json)}
    (h : Assoc.Ascending ms) (v : Option Json) :
    Assoc.find? key (setMember key ms v) = v := by
  cases v with
  | none => exact Assoc.find?_erase_self (Assoc.distinct_of_ascending h)
  | some v => exact Assoc.find?_insert_self key v ms

theorem find?_setMember_of_ne {key other : String} (h : other ≠ key)
    (ms : List (String × Json)) (v : Option Json) :
    Assoc.find? other (setMember key ms v) = Assoc.find? other ms := by
  cases v with
  | none => exact Assoc.find?_erase_of_ne h ms
  | some v => exact Assoc.find?_insert_of_ne h v ms

theorem ascending_patchMembers {ms : List (String × Json)} (h : Assoc.Ascending ms)
    (ds : List (String × Json)) : Assoc.Ascending (patchMembers ms ds) := by
  rw [patchMembers_eq_foldl]
  exact Assoc.foldl_keeps (p := Assoc.Ascending) (fun ms e h => ascending_setMember h _) ds h

/-- What a patch does to a member is decided by the diff of that member alone. -/
theorem find?_patchMembers {ds ms : List (String × Json)} (hds : Assoc.Distinct ds)
    (hms : Assoc.Ascending ms) (key : String) :
    Assoc.find? key (patchMembers ms ds) =
      (Assoc.find? key ds).elim (Assoc.find? key ms) (patched? (Assoc.find? key ms)) := by
  rw [patchMembers_eq_foldl]
  refine Assoc.find?_foldl (p := Assoc.Ascending) ?_ ?_ ?_ hds hms key
  · exact fun ms e h => ascending_setMember h _
  · exact fun ms e h => find?_setMember_self h _
  · exact fun ms e key h => find?_setMember_of_ne h ms _

end Json

end TopicClient
