import TopicClient.Json.Basic
import TopicClient.Proofs.Entries

/-!
# Equality of values

Equality up to the sign of zero is reflexive, and two objects are equal exactly
when look-up finds equal values in both, or none in either.
-/

namespace TopicClient.Json

theorem Number.same_refl (n : Number) : n.same n = true := by
  cases n with
  | int i => exact beq_self_eq_true i
  | float x => exact Double.same_refl x

mutual

theorem same_refl (v : Json) : v.same v = true := by
  cases v with
  | null => rfl
  | bool b => exact beq_self_eq_true b
  | num n => exact n.same_refl
  | str s => exact beq_self_eq_true s
  | arr xs => exact sameItems_refl xs
  | obj ms => exact sameMembers_refl ms
termination_by structural v

theorem sameItems_refl (xs : List Json) : sameItems xs xs = true := by
  cases xs with
  | nil => rfl
  | cons x xs => simp [sameItems, same_refl x, sameItems_refl xs]
termination_by structural xs

theorem sameMembers_refl (ms : List (String × Json)) : sameMembers ms ms = true := by
  match ms with
  | [] => rfl
  | (k, x) :: ms => simp [sameMembers, same_refl x, sameMembers_refl ms]
termination_by structural ms

end

/-- Two look-ups find equal values, or nothing. -/
def SameFound : Option Json → Option Json → Prop :=
  Option.Rel fun x y => x.same y = true

theorem SameFound.refl (found : Option Json) : SameFound found found := by
  cases found with
  | none => exact .none
  | some v => exact .some v.same_refl

theorem SameFound.mem_keys_iff {key : String} {xs ys : List (String × Json)}
    (h : SameFound (Assoc.find? key xs) (Assoc.find? key ys)) :
    key ∈ Assoc.keys xs ↔ key ∈ Assoc.keys ys := by
  rw [← Assoc.find?_isSome_iff, ← Assoc.find?_isSome_iff]
  generalize Assoc.find? key xs = x at h
  generalize Assoc.find? key ys = y at h
  cases h <;> rfl

theorem find?_of_sameMembers {xs ys : List (String × Json)} (h : sameMembers xs ys = true)
    (key : String) : SameFound (Assoc.find? key xs) (Assoc.find? key ys) := by
  induction xs generalizing ys with
  | nil =>
    cases ys with
    | nil => exact .none
    | cons y ys => simp [sameMembers] at h
  | cons x xs ih =>
    obtain ⟨k, v⟩ := x
    cases ys with
    | nil => simp [sameMembers] at h
    | cons y ys =>
      obtain ⟨l, w⟩ := y
      simp only [sameMembers, Bool.and_eq_true, beq_iff_eq] at h
      obtain ⟨⟨rfl, hsame⟩, hrest⟩ := h
      by_cases hk : k = key
      · simp only [Assoc.find?, if_pos hk]
        exact .some hsame
      · simp only [Assoc.find?, if_neg hk]
        exact ih hrest

/-- The first names agree, since either is the least of all names found. -/
theorem head_of_sameFound {k l : String} {v w : Json} {xs ys : List (String × Json)}
    (hx : Assoc.Ascending ((k, v) :: xs)) (hy : Assoc.Ascending ((l, w) :: ys))
    (h : ∀ key, SameFound (Assoc.find? key ((k, v) :: xs)) (Assoc.find? key ((l, w) :: ys))) :
    k = l := by
  have hk : k ∈ Assoc.keys ((l, w) :: ys) := (h k).mem_keys_iff.mp (by simp)
  have hl : l ∈ Assoc.keys ((k, v) :: xs) := (h l).mem_keys_iff.mpr (by simp)
  rcases List.mem_cons.mp hk with heq | hk
  · exact heq
  rcases List.mem_cons.mp hl with heq | hl
  · exact heq.symm
  · have lower := (Assoc.ascending_cons.mp hx).1 l hl
    have upper := (Assoc.ascending_cons.mp hy).1 k hk
    exact absurd (String.lt_trans lower upper) (String.lt_irrefl k)

theorem sameMembers_of_find? {xs ys : List (String × Json)} (hx : Assoc.Ascending xs)
    (hy : Assoc.Ascending ys)
    (h : ∀ key, SameFound (Assoc.find? key xs) (Assoc.find? key ys)) :
    sameMembers xs ys = true := by
  induction xs generalizing ys with
  | nil =>
    cases ys with
    | nil => rfl
    | cons y ys =>
      obtain ⟨l, w⟩ := y
      have hl := h l
      simp only [Assoc.find?, if_true] at hl
      cases hl
  | cons x xs ih =>
    obtain ⟨k, v⟩ := x
    cases ys with
    | nil =>
      have hk := h k
      simp only [Assoc.find?, if_true] at hk
      cases hk
    | cons y ys =>
      obtain ⟨l, w⟩ := y
      obtain rfl := head_of_sameFound hx hy h
      obtain ⟨lowx, restx⟩ := Assoc.ascending_cons.mp hx
      obtain ⟨lowy, resty⟩ := Assoc.ascending_cons.mp hy
      have hhead := h k
      simp only [Assoc.find?, if_true] at hhead
      have htail : sameMembers xs ys = true := by
        refine ih restx resty ?_
        intro key
        by_cases hk : k = key
        · subst hk
          have freshx : k ∉ Assoc.keys xs := fun hmem => String.lt_irrefl k (lowx k hmem)
          have freshy : k ∉ Assoc.keys ys := fun hmem => String.lt_irrefl k (lowy k hmem)
          rw [Assoc.find?_eq_none_iff.mpr freshx, Assoc.find?_eq_none_iff.mpr freshy]
          exact .none
        · simpa [Assoc.find?, hk] using h key
      cases hhead with
      | some hsame => simp [sameMembers, hsame, htail]

theorem sameMembers_iff {xs ys : List (String × Json)} (hx : Assoc.Ascending xs)
    (hy : Assoc.Ascending ys) : sameMembers xs ys = true ↔
      ∀ key, SameFound (Assoc.find? key xs) (Assoc.find? key ys) :=
  ⟨find?_of_sameMembers, sameMembers_of_find? hx hy⟩

end TopicClient.Json
