import Mathlib.Data.List.Nodup
import Mathlib.Data.String.Basic
import TopicClient.Assoc

/-!
# Laws of association lists

Building a list from entries that are in order already changes nothing. In
insertion order the keys do not repeat; in key order they ascend. Every operation
keeps what its discipline asks for, and changes the look-up of its own key alone.
-/

namespace TopicClient.Assoc

universe u v
variable {κ : Type u} {α : Type v} [DecidableEq κ]

omit [DecidableEq κ] in
@[simp] theorem keys_nil : keys ([] : List (κ × α)) = [] := rfl

omit [DecidableEq κ] in
@[simp] theorem keys_cons (e : κ × α) (es : List (κ × α)) :
    keys (e :: es) = e.1 :: keys es := rfl

omit [DecidableEq κ] in
@[simp] theorem keys_append (es fs : List (κ × α)) : keys (es ++ fs) = keys es ++ keys fs :=
  List.map_append

theorem find?_eq_none_iff {key : κ} {es : List (κ × α)} :
    find? key es = none ↔ key ∉ keys es := by
  induction es with
  | nil => simp [find?]
  | cons e es ih =>
    obtain ⟨k, v⟩ := e
    by_cases h : k = key
    · simp [find?, h]
    · have h' : ¬ key = k := fun heq => h heq.symm
      simp [find?, h, h', ih]

theorem find?_isSome_iff {key : κ} {es : List (κ × α)} :
    (find? key es).isSome ↔ key ∈ keys es := by
  rw [Option.isSome_iff_ne_none, ne_eq, find?_eq_none_iff, Decidable.not_not]

theorem mem_of_find? {key : κ} {value : α} {es : List (κ × α)}
    (h : find? key es = some value) : (key, value) ∈ es := by
  induction es with
  | nil => simp [find?] at h
  | cons e es ih =>
    obtain ⟨k, v⟩ := e
    by_cases hk : k = key
    · obtain rfl : v = value := by simpa [find?, hk] using h
      simp [hk]
    · exact List.mem_cons_of_mem _ (ih (by simpa [find?, hk] using h))

theorem put_of_not_mem {key : κ} (value : α) {es : List (κ × α)} (h : key ∉ keys es) :
    put key value es = es ++ [(key, value)] := by
  induction es with
  | nil => rfl
  | cons e es ih =>
    obtain ⟨k, v⟩ := e
    have hk : ¬ k = key := fun heq => h (by simp [heq])
    have htail : key ∉ keys es := fun hmem => h (by simp [hmem])
    simp [put, hk, ih htail]

/-- Setting a key to the value that it has changes nothing. -/
theorem put_of_find? {key : κ} {value : α} {es : List (κ × α)}
    (h : find? key es = some value) : put key value es = es := by
  induction es with
  | nil => cases h
  | cons e es ih =>
    obtain ⟨k, v⟩ := e
    by_cases hk : k = key
    · obtain rfl : v = value := by simpa [find?, hk] using h
      simp [put, hk]
    · simp [put, hk, ih (by simpa [find?, hk] using h)]

theorem find?_filter {p : κ → Bool} {key : κ} (h : p key = true) (es : List (κ × α)) :
    find? key (es.filter fun e => p e.1) = find? key es := by
  induction es with
  | nil => rfl
  | cons e es ih =>
    obtain ⟨k, v⟩ := e
    by_cases hk : k = key
    · subst hk
      simp [h, find?]
    · cases hkept : p k <;> simp [hkept, find?, hk, ih]

theorem find?_filter_gone {p : κ → Bool} {key : κ} (h : p key = false) (es : List (κ × α)) :
    find? key (es.filter fun e => p e.1) = none := by
  rw [find?_eq_none_iff, keys, List.mem_map]
  rintro ⟨e, he, rfl⟩
  simp [h] at he

theorem foldl_put_of_distinct (es acc : List (κ × α)) (h : Distinct (acc ++ es)) :
    es.foldl (fun acc e => put e.1 e.2 acc) acc = acc ++ es := by
  induction es generalizing acc with
  | nil => simp
  | cons e es ih =>
    obtain ⟨k, v⟩ := e
    have fresh : k ∉ keys acc := by
      have hnodup := h
      simp only [Distinct, keys_append, keys_cons] at hnodup
      exact fun hk => (List.nodup_append.mp hnodup).2.2 k hk k (by simp) rfl
    rw [List.foldl_cons, put_of_not_mem v fresh, ih _ (by simpa using h)]
    simp

/-- Entries without a repeated key stay as they are. -/
theorem ofList_of_distinct {es : List (κ × α)} (h : Distinct es) : ofList es = es :=
  foldl_put_of_distinct es [] h

theorem erase_sublist (key : κ) (es : List (κ × α)) : List.Sublist (erase key es) es := by
  induction es with
  | nil => exact List.Sublist.refl _
  | cons e es ih =>
    obtain ⟨k, v⟩ := e
    by_cases h : k = key
    · simp only [erase, if_pos h]
      exact List.sublist_cons_self _ _
    · simp only [erase, if_neg h]
      exact ih.cons_cons _

theorem erase_of_not_mem {key : κ} {es : List (κ × α)} (h : key ∉ keys es) :
    erase key es = es := by
  induction es with
  | nil => rfl
  | cons e rest ih =>
    rw [keys_cons, List.mem_cons, not_or] at h
    rw [erase, if_neg (Ne.symm h.1), ih h.2]

theorem keys_erase (key : κ) (es : List (κ × α)) : keys (erase key es) = (keys es).erase key := by
  induction es with
  | nil => rfl
  | cons e es ih =>
    obtain ⟨k, v⟩ := e
    by_cases h : k = key
    · simp [erase, h]
    · simp [erase, h, ih]

theorem keys_erase_sublist (key : κ) (es : List (κ × α)) :
    List.Sublist (keys (erase key es)) (keys es) :=
  (erase_sublist key es).map Prod.fst

omit [DecidableEq κ] in
theorem distinct_cons {e : κ × α} {es : List (κ × α)} :
    Distinct (e :: es) ↔ e.1 ∉ keys es ∧ Distinct es := by
  simp [Distinct]

theorem find?_of_mem {key : κ} {value : α} {es : List (κ × α)} (h : Distinct es)
    (hmem : (key, value) ∈ es) : find? key es = some value := by
  induction es with
  | nil => cases hmem
  | cons e es ih =>
    obtain ⟨k, v⟩ := e
    obtain ⟨fresh, rest⟩ := distinct_cons.mp h
    rcases List.mem_cons.mp hmem with heq | hmem
    · obtain ⟨rfl, rfl⟩ := Prod.mk.inj heq
      simp [find?]
    · have hne : k ≠ key := by
        rintro rfl
        exact fresh (List.mem_map.mpr ⟨_, hmem, rfl⟩)
      simp only [find?, if_neg hne]
      exact ih rest hmem

theorem distinct_erase {key : κ} {es : List (κ × α)} (h : Distinct es) :
    Distinct (erase key es) :=
  h.sublist (keys_erase_sublist key es)

theorem distinct_put {key : κ} {value : α} {es : List (κ × α)} (h : Distinct es) :
    Distinct (put key value es) := by
  rw [Distinct, keys_put]
  by_cases hmem : key ∈ keys es
  · rw [if_pos hmem]
    exact h
  · rw [if_neg hmem]
    refine List.nodup_append.mpr ⟨h, List.nodup_singleton key, ?_⟩
    intro k hk j hj heq
    rw [List.mem_singleton] at hj
    exact hmem (hj ▸ heq ▸ hk)

/-- Whatever the entries were, no key repeats among those that are kept. -/
theorem distinct_ofList (es : List (κ × α)) : Distinct (ofList es) := by
  suffices hfold : ∀ acc : List (κ × α), Distinct acc →
      Distinct (es.foldl (fun acc e => put e.1 e.2 acc) acc) from
    hfold [] List.nodup_nil
  induction es with
  | nil => exact fun acc h => h
  | cons e es ih => exact fun acc h => ih _ (distinct_put h)

theorem mem_keys_of_mem_keys_ofList {key : κ} {es : List (κ × α)} (h : key ∈ keys (ofList es)) :
    key ∈ keys es := by
  suffices hfold : ∀ acc : List (κ × α),
      key ∈ keys (es.foldl (fun acc e => put e.1 e.2 acc) acc) → key ∈ keys acc ∨ key ∈ keys es from
    (hfold [] h).resolve_left List.not_mem_nil
  clear h
  induction es with
  | nil => exact fun acc h => .inl h
  | cons e es ih =>
    intro acc h
    rcases ih _ h with hacc | hrest
    · rw [keys_put] at hacc
      split at hacc
      · exact .inl hacc
      · rcases List.mem_append.mp hacc with hacc | hnew
        · exact .inl hacc
        · exact .inr (by simp [List.mem_singleton.mp hnew])
    · exact .inr (List.mem_cons_of_mem _ hrest)

theorem find?_erase_self {key : κ} {es : List (κ × α)} (h : Distinct es) :
    find? key (erase key es) = none := by
  induction es with
  | nil => rfl
  | cons e es ih =>
    obtain ⟨k, v⟩ := e
    obtain ⟨fresh, rest⟩ := distinct_cons.mp h
    by_cases hk : k = key
    · subst hk
      simp only [erase, if_true]
      exact find?_eq_none_iff.mpr fresh
    · simp only [erase, if_neg hk, find?]
      exact ih rest

theorem find?_modify_self (key : κ) (f : α → α) (es : List (κ × α)) :
    find? key (modify key f es) = (find? key es).map f := by
  induction es with
  | nil => rfl
  | cons e es ih =>
    obtain ⟨k, v⟩ := e
    by_cases hk : k = key
    · simp only [modify, find?, if_pos hk, Option.map_some]
    · simp only [modify, find?, if_neg hk]
      exact ih

theorem find?_modify_of_ne {key other : κ} (h : other ≠ key) (f : α → α)
    (es : List (κ × α)) : find? other (modify key f es) = find? other es := by
  induction es with
  | nil => rfl
  | cons e es ih =>
    obtain ⟨k, v⟩ := e
    by_cases hk : k = key
    · subst hk
      simp only [modify, find?, if_true, if_neg (Ne.symm h)]
    · simp only [modify, find?, if_neg hk, ih]

@[simp] theorem keys_modify (key : κ) (f : α → α) (es : List (κ × α)) :
    keys (modify key f es) = keys es := by
  induction es with
  | nil => rfl
  | cons e rest ih =>
    obtain ⟨k, v⟩ := e
    by_cases hk : k = key
    · simp only [modify, if_pos hk, keys_cons]
    · simp only [modify, if_neg hk, keys_cons, ih]

theorem modify_of_not_mem {key : κ} (f : α → α) {es : List (κ × α)} (h : key ∉ keys es) :
    modify key f es = es := by
  induction es with
  | nil => rfl
  | cons e rest ih =>
    rw [keys_cons, List.mem_cons, not_or] at h
    rw [modify, if_neg (Ne.symm h.1), ih h.2]

theorem mem_erase_iff {es : List (κ × α)} (h : Distinct es) {key : κ} {e : κ × α} :
    e ∈ erase key es ↔ e ∈ es ∧ e.1 ≠ key := by
  obtain ⟨k, v⟩ := e
  constructor
  · intro hmem
    refine ⟨(erase_sublist key es).subset hmem, ?_⟩
    rintro rfl
    have hfound := find?_of_mem (distinct_erase h) hmem
    rw [find?_erase_self h] at hfound
    cases hfound
  · rintro ⟨hmem, hne⟩
    have hfound := find?_of_mem h hmem
    rw [← find?_erase_of_ne hne] at hfound
    exact mem_of_find? hfound

/-! ## A part of every value -/

section Parts
variable {β : Type*}

theorem find?_map (f : α → β) (key : κ) (es : List (κ × α)) :
    find? key (es.map fun e => (e.1, f e.2)) = (find? key es).map f := by
  induction es with
  | nil => rfl
  | cons e rest ih =>
    obtain ⟨k, v⟩ := e
    by_cases hk : k = key
    · simp [find?, hk]
    · simpa [find?, hk] using ih

theorem erase_map (f : α → β) (key : κ) (es : List (κ × α)) :
    (erase key es).map (fun e => (e.1, f e.2)) = erase key (es.map fun e => (e.1, f e.2)) := by
  induction es with
  | nil => rfl
  | cons e rest ih =>
    obtain ⟨k, v⟩ := e
    by_cases hk : k = key
    · simp [erase, hk]
    · simpa [erase, hk] using ih

theorem put_map (f : α → β) (key : κ) (value : α) (es : List (κ × α)) :
    (put key value es).map (fun e => (e.1, f e.2)) =
      put key (f value) (es.map fun e => (e.1, f e.2)) := by
  induction es with
  | nil => rfl
  | cons e rest ih =>
    obtain ⟨k, v⟩ := e
    by_cases hk : k = key
    · simp [put, hk]
    · simpa [put, hk] using ih

/-- A change that the map does not see. -/
theorem map_modify {f : α → β} {g : α → α} (h : ∀ a, f (g a) = f a) (key : κ)
    (es : List (κ × α)) :
    (modify key g es).map (fun e => (e.1, f e.2)) = es.map fun e => (e.1, f e.2) := by
  induction es with
  | nil => rfl
  | cons e rest ih =>
    obtain ⟨k, v⟩ := e
    by_cases hk : k = key
    · simp [modify, hk, h]
    · simpa [modify, hk] using ih

end Parts

/-! ## Two keys -/

section TwoKeys

theorem erase_comm (key other : κ) (es : List (κ × α)) :
    erase key (erase other es) = erase other (erase key es) := by
  induction es with
  | nil => rfl
  | cons e rest ih =>
    obtain ⟨k, v⟩ := e
    by_cases hkey : k = key
    · subst hkey
      by_cases hother : k = other <;> simp [erase, hother]
    · rcases eq_or_ne k other with rfl | hother
      · simp [erase, hkey]
      · simp [erase, hkey, hother, ih]

theorem put_erase {key other : κ} (h : key ≠ other) (value : α) (es : List (κ × α)) :
    put key value (erase other es) = erase other (put key value es) := by
  induction es with
  | nil => simp [put, erase, h]
  | cons e rest ih =>
    obtain ⟨k, v⟩ := e
    by_cases hkey : k = key
    · subst hkey
      simp [put, erase, h]
    · by_cases hother : k = other
      · simp [put, erase, hother, Ne.symm h]
      · simp [put, erase, hkey, hother, ih]

/-- Of two keys, one is there already; so only the other can come to the end. -/
theorem put_comm {key other : κ} (h : key ≠ other) (value last : α) {es : List (κ × α)}
    (hkey : key ∈ keys es) :
    put key value (put other last es) = put other last (put key value es) := by
  induction es with
  | nil => cases hkey
  | cons e rest ih =>
    obtain ⟨k, v⟩ := e
    by_cases hk : k = key
    · subst hk
      simp [put, h]
    · have hrest : key ∈ keys rest := (List.mem_cons.mp hkey).resolve_left (Ne.symm hk)
      by_cases hother : k = other
      · simp [put, hother, Ne.symm h]
      · simp [put, hk, hother, ih hrest]

/-- The entries with what has become of one of them: it is gone, or has this value now. -/
def settle (key : κ) : Option α → List (κ × α) → List (κ × α)
  | none, es => erase key es
  | some value, es => put key value es

/-- Of entries that all pass, only the one that is changed can be lost. -/
theorem filter_modify {p : α → Bool} (f : α → α) {key : κ} {value : α} {es : List (κ × α)}
    (hfound : find? key es = some value) (hes : Distinct es) (hall : ∀ e ∈ es, p e.2 = true) :
    (modify key f es).filter (fun e => p e.2) =
      settle key (if p (f value) then some (f value) else none) es := by
  induction es with
  | nil => cases hfound
  | cons e rest ih =>
    obtain ⟨k, v⟩ := e
    obtain ⟨hfresh, hrest⟩ := distinct_cons.mp hes
    obtain ⟨hv, hkept⟩ := List.forall_mem_cons.mp hall
    by_cases hk : k = key
    · subst hk
      obtain rfl : v = value := by simpa [find?] using hfound
      have hothers : rest.filter (fun e => p e.2) = rest := List.filter_eq_self.mpr hkept
      rw [modify, if_pos rfl, List.filter_cons, hothers]
      split_ifs <;> simp [settle, put, erase]
    · rw [find?, if_neg hk] at hfound
      rw [modify, if_neg hk, List.filter_cons, if_pos hv, ih hfound hrest hkept]
      split_ifs <;> simp [settle, put, erase, hk]

theorem map_settle {β : Type*} (f : α → β) (key : κ) (value : Option α) (es : List (κ × α)) :
    (settle key value es).map (fun e => (e.1, f e.2)) =
      settle key (value.map f) (es.map fun e => (e.1, f e.2)) := by
  cases value with
  | none => exact erase_map f key es
  | some value => exact put_map f key value es

theorem settle_comm {key other : κ} (h : key ≠ other) {v w : Option α} {es : List (κ × α)}
    (hkey : v.isSome → key ∈ keys es) :
    settle key v (settle other w es) = settle other w (settle key v es) := by
  cases v with
  | none =>
    cases w with
    | none => exact erase_comm key other es
    | some w => exact (put_erase (Ne.symm h) w es).symm
  | some v =>
    cases w with
    | none => exact put_erase h v es
    | some w => exact put_comm h v w (hkey rfl)

end TwoKeys

/-! ## One entry at a time -/

section Updates
variable {β : Type*} {p : List (κ × α) → Prop} {step : List (κ × α) → κ × β → List (κ × α)}

omit [DecidableEq κ] in
theorem foldl_keeps (keeps : ∀ es e, p es → p (step es e)) (us : List (κ × β))
    {es : List (κ × α)} (h : p es) : p (us.foldl step es) := by
  induction us generalizing es with
  | nil => exact h
  | cons u us ih => exact ih (keeps es u h)

/-- Where a step looks at its own key only and changes nothing else, what becomes of a
key is decided by the one update that names it. -/
theorem find?_foldl {update : Option α → β → Option α}
    (keeps : ∀ es e, p es → p (step es e))
    (own : ∀ es e, p es → find? e.1 (step es e) = update (find? e.1 es) e.2)
    (others : ∀ es e key, key ≠ e.1 → find? key (step es e) = find? key es)
    {us : List (κ × β)} (hus : Distinct us) {es : List (κ × α)} (hes : p es) (key : κ) :
    find? key (us.foldl step es) =
      (find? key us).elim (find? key es) (update (find? key es)) := by
  induction us generalizing es with
  | nil => rfl
  | cons e us ih =>
    obtain ⟨k, u⟩ := e
    obtain ⟨fresh, rest⟩ := distinct_cons.mp hus
    rw [List.foldl_cons, ih rest (keeps es (k, u) hes)]
    by_cases hk : k = key
    · subst hk
      rw [find?_eq_none_iff.mpr fresh]
      simpa only [find?, if_true, Option.elim] using own es (k, u) hes
    · rw [others es (k, u) key (Ne.symm hk)]
      simp only [find?, if_neg hk]

end Updates

/-! ## Lists in the order of their names -/

section Ordered
variable {es : List (String × α)}

theorem ascending_cons {e : String × α} :
    Ascending (e :: es) ↔ (∀ k ∈ keys es, e.1 < k) ∧ Ascending es := by
  simp [Ascending]

theorem insert_of_all_lt {key : String} (value : α) (h : ∀ k ∈ keys es, k < key) :
    insert key value es = es ++ [(key, value)] := by
  induction es with
  | nil => rfl
  | cons e es ih =>
    obtain ⟨k, v⟩ := e
    have hlt : k < key := h k (by simp)
    have hne : ¬ k = key := String.ne_of_lt hlt
    have hnot : ¬ key < k := String.lt_asymm hlt
    simp [insert, hne, hnot, ih (fun j hj => h j (by simp [hj]))]

theorem foldl_insert_of_ascending (es acc : List (String × α)) (h : Ascending (acc ++ es)) :
    es.foldl (fun acc e => insert e.1 e.2 acc) acc = acc ++ es := by
  induction es generalizing acc with
  | nil => simp
  | cons e es ih =>
    obtain ⟨k, v⟩ := e
    have above : ∀ j ∈ keys acc, j < k := by
      have hasc := h
      simp only [Ascending, keys_append, keys_cons] at hasc
      exact fun j hj => (List.pairwise_append.mp hasc).2.2 j hj k (by simp)
    rw [List.foldl_cons, insert_of_all_lt v above, ih _ (by simpa using h)]
    simp

/-- Ascending entries stay as they are. -/
theorem ofListSorted_of_ascending (h : Ascending es) : ofListSorted es = es :=
  foldl_insert_of_ascending es [] h

theorem distinct_of_ascending (h : Ascending es) : Distinct es :=
  List.Pairwise.imp String.ne_of_lt h

theorem ascending_erase {key : String} (h : Ascending es) : Ascending (erase key es) :=
  List.Pairwise.sublist (keys_erase_sublist key es) h

theorem mem_keys_insert {key k : String} {value : α} :
    k ∈ keys (insert key value es) ↔ k = key ∨ k ∈ keys es := by
  induction es with
  | nil => simp [insert]
  | cons e es ih =>
    obtain ⟨j, v⟩ := e
    by_cases heq : j = key
    · simp [insert, heq]
    · by_cases hlt : key < j
      · simp [insert, heq, hlt]
      · simp only [insert, if_neg heq, if_neg hlt, keys_cons, List.mem_cons, ih]
        tauto

theorem ascending_insert {key : String} {value : α} (h : Ascending es) :
    Ascending (insert key value es) := by
  induction es with
  | nil => simp [insert, Ascending]
  | cons e es ih =>
    obtain ⟨j, v⟩ := e
    obtain ⟨above, rest⟩ := ascending_cons.mp h
    by_cases heq : j = key
    · simp only [insert, if_pos heq]
      exact ascending_cons.mpr ⟨above, rest⟩
    · by_cases hlt : key < j
      · simp only [insert, if_neg heq, if_pos hlt]
        refine ascending_cons.mpr ⟨?_, h⟩
        intro k hk
        rcases List.mem_cons.mp hk with rfl | hk
        · exact hlt
        · exact String.lt_trans hlt (above k hk)
      · simp only [insert, if_neg heq, if_neg hlt]
        refine ascending_cons.mpr ⟨?_, ih rest⟩
        intro k hk
        rcases mem_keys_insert.mp hk with rfl | hk
        · exact lt_of_le_of_ne (String.not_lt.mp hlt) heq
        · exact above k hk

theorem ascending_ofListSorted (es : List (String × α)) : Ascending (ofListSorted es) := by
  suffices h : ∀ acc : List (String × α), Ascending acc →
      Ascending (es.foldl (fun acc e => insert e.1 e.2 acc) acc) from
    h [] List.Pairwise.nil
  induction es with
  | nil => exact fun acc h => h
  | cons e es ih => exact fun acc h => ih _ (ascending_insert h)

theorem mem_of_mem_insert {key : String} {value : α} {e : String × α}
    (h : e ∈ insert key value es) : e = (key, value) ∨ e ∈ es := by
  induction es with
  | nil => exact .inl (by simpa [insert] using h)
  | cons first rest ih =>
    obtain ⟨k, v⟩ := first
    by_cases heq : k = key
    · simp only [insert, if_pos heq] at h
      rcases List.mem_cons.mp h with rfl | h
      · exact .inl (by rw [heq])
      · exact .inr (List.mem_cons_of_mem _ h)
    · by_cases hlt : key < k
      · simp only [insert, if_neg heq, if_pos hlt] at h
        exact List.mem_cons.mp h
      · simp only [insert, if_neg heq, if_neg hlt] at h
        rcases List.mem_cons.mp h with rfl | h
        · exact .inr List.mem_cons_self
        · exact (ih h).imp_right (List.mem_cons_of_mem _)

/-- Sorting entries brings none that was not there. -/
theorem mem_of_mem_ofListSorted {es : List (String × α)} {e : String × α}
    (h : e ∈ ofListSorted es) : e ∈ es := by
  suffices hfold : ∀ acc : List (String × α),
      e ∈ es.foldl (fun acc e => insert e.1 e.2 acc) acc → e ∈ acc ∨ e ∈ es by
    exact (hfold [] h).resolve_left List.not_mem_nil
  clear h
  induction es with
  | nil => exact fun acc h => .inl h
  | cons first rest ih =>
    intro acc h
    rcases ih _ h with hacc | hrest
    · rcases mem_of_mem_insert hacc with rfl | hacc
      · exact .inr List.mem_cons_self
      · exact .inl hacc
    · exact .inr (List.mem_cons_of_mem _ hrest)

theorem find?_insert_self (key : String) (value : α) (es : List (String × α)) :
    find? key (insert key value es) = some value := by
  induction es with
  | nil => simp [insert, find?]
  | cons e es ih =>
    obtain ⟨k, v⟩ := e
    by_cases heq : k = key
    · simp [insert, find?, heq]
    · by_cases hlt : key < k <;> simp [insert, find?, heq, hlt, ih]

theorem find?_insert_of_ne {key other : String} (h : other ≠ key) (value : α)
    (es : List (String × α)) : find? other (insert key value es) = find? other es := by
  induction es with
  | nil => simp [insert, find?, Ne.symm h]
  | cons e es ih =>
    obtain ⟨k, v⟩ := e
    by_cases heq : k = key
    · subst heq
      simp [insert, find?, Ne.symm h]
    · by_cases hlt : key < k
      · simp [insert, find?, heq, hlt, Ne.symm h]
      · simp [insert, find?, heq, hlt, ih]

/-- Sorting entries without a repeated key leaves every look-up as it was. -/
theorem find?_ofListSorted {es : List (String × α)} (h : Distinct es) (key : String) :
    find? key (ofListSorted es) = find? key es := by
  suffices hfold : ∀ acc : List (String × α),
      find? key (es.foldl (fun acc e => insert e.1 e.2 acc) acc) =
        (find? key es).or (find? key acc) by
    simpa [ofListSorted, find?] using hfold []
  induction es with
  | nil => exact fun acc => rfl
  | cons e es ih =>
    intro acc
    obtain ⟨k, v⟩ := e
    obtain ⟨fresh, rest⟩ := distinct_cons.mp h
    rw [List.foldl_cons, ih rest]
    by_cases hk : k = key
    · subst hk
      have hnone : find? k es = none := find?_eq_none_iff.mpr fresh
      simp [find?, hnone, find?_insert_self]
    · rw [find?_insert_of_ne (Ne.symm hk)]
      simp [find?, hk]

/-- Ascending entries are known by what is found among them. -/
theorem eq_of_find? {xs ys : List (String × α)} (hx : Ascending xs) (hy : Ascending ys)
    (h : ∀ key, find? key xs = find? key ys) : xs = ys := by
  have hmem : ∀ e, e ∈ xs ↔ e ∈ ys := by
    intro e
    constructor
    · intro he
      apply mem_of_find?
      rw [← h]
      exact find?_of_mem (distinct_of_ascending hx) he
    · intro he
      apply mem_of_find?
      rw [h]
      exact find?_of_mem (distinct_of_ascending hy) he
  have hperm : xs.Perm ys :=
    (List.perm_ext_iff_of_nodup (.of_map _ (distinct_of_ascending hx))
      (.of_map _ (distinct_of_ascending hy))).mpr hmem
  refine hperm.eq_of_pairwise ?_ (List.pairwise_map.mp hx) (List.pairwise_map.mp hy)
  intro a b _ _ hab hba
  exact absurd (String.lt_trans hab hba) (String.lt_irrefl _)

end Ordered

end TopicClient.Assoc
