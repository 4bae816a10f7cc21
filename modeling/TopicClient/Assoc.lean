/-!
# Association lists

One carrier, `List (κ × α)`, under two disciplines. In insertion order, `put`
keeps the place of a key that is already there and appends a new one. In key
order, `insert` keeps an ascending list ascending. Look-up and removal serve
both, and removal never moves the entries that stay.
-/

namespace TopicClient.Assoc

universe u v
variable {κ : Type u} {α : Type v} [DecidableEq κ]

def keys (entries : List (κ × α)) : List κ :=
  entries.map Prod.fst

def find? (key : κ) : List (κ × α) → Option α
  | [] => none
  | (k, v) :: rest => if k = key then some v else find? key rest

def contains (key : κ) (entries : List (κ × α)) : Bool :=
  (find? key entries).isSome

/-- Replaces the value in place, or appends the entry. -/
def put (key : κ) (value : α) : List (κ × α) → List (κ × α)
  | [] => [(key, value)]
  | (k, v) :: rest =>
    if k = key then (k, value) :: rest else (k, v) :: put key value rest

def erase (key : κ) : List (κ × α) → List (κ × α)
  | [] => []
  | (k, v) :: rest => if k = key then rest else (k, v) :: erase key rest

/-- Replaces the value of a key that is present. -/
def modify (key : κ) (f : α → α) : List (κ × α) → List (κ × α)
  | [] => []
  | (k, v) :: rest => if k = key then (k, f v) :: rest else (k, v) :: modify key f rest

/-- Later entries win and repeated keys keep their first place. -/
def ofList (entries : List (κ × α)) : List (κ × α) :=
  entries.foldl (fun acc e => put e.1 e.2 acc) []

section Ordered
variable [LT κ] [DecidableLT κ]

/-- Replaces the value, or inserts the entry before the first greater key. -/
def insert (key : κ) (value : α) : List (κ × α) → List (κ × α)
  | [] => [(key, value)]
  | (k, v) :: rest =>
    if k = key then (k, value) :: rest
    else if key < k then (key, value) :: (k, v) :: rest
    else (k, v) :: insert key value rest

/-- Later entries win and keys ascend. -/
def ofListSorted (entries : List (κ × α)) : List (κ × α) :=
  entries.foldl (fun acc e => insert e.1 e.2 acc) []

/-- Keys ascend strictly, so none repeats. -/
def Ascending (entries : List (κ × α)) : Prop :=
  (keys entries).Pairwise (· < ·)

instance (entries : List (κ × α)) : Decidable (Ascending entries) :=
  inferInstanceAs (Decidable ((keys entries).Pairwise (· < ·)))

end Ordered

/-- No key repeats. -/
def Distinct (entries : List (κ × α)) : Prop :=
  (keys entries).Nodup

instance (entries : List (κ × α)) : Decidable (Distinct entries) :=
  inferInstanceAs (Decidable (keys entries).Nodup)

theorem find?_put_self (key : κ) (value : α) (entries : List (κ × α)) :
    find? key (put key value entries) = some value := by
  induction entries with
  | nil => simp [put, find?]
  | cons e rest ih =>
    obtain ⟨k, v⟩ := e
    by_cases h : k = key <;> simp [put, find?, h, ih]

theorem find?_put_of_ne {key other : κ} (h : other ≠ key) (value : α)
    (entries : List (κ × α)) :
    find? other (put key value entries) = find? other entries := by
  induction entries with
  | nil => simp [put, find?, Ne.symm h]
  | cons e rest ih =>
    obtain ⟨k, v⟩ := e
    by_cases hk : k = key
    · subst hk
      simp [put, find?, Ne.symm h]
    · simp [put, find?, hk, ih]

theorem find?_erase_of_ne {key other : κ} (h : other ≠ key)
    (entries : List (κ × α)) :
    find? other (erase key entries) = find? other entries := by
  induction entries with
  | nil => rfl
  | cons e rest ih =>
    obtain ⟨k, v⟩ := e
    by_cases hk : k = key
    · subst hk
      simp [erase, find?, Ne.symm h]
    · simp [erase, find?, hk, ih]

theorem keys_put (key : κ) (value : α) (entries : List (κ × α)) :
    keys (put key value entries) =
      if key ∈ keys entries then keys entries else keys entries ++ [key] := by
  induction entries with
  | nil => simp [put, keys]
  | cons e rest ih =>
    obtain ⟨k, v⟩ := e
    by_cases hk : k = key
    · simp [put, keys, hk]
    · have hk' : ¬ key = k := fun h => hk h.symm
      simp only [keys, List.map_cons] at ih ⊢
      simp only [put, hk, if_false, List.map_cons, ih, List.mem_cons, hk', false_or]
      split <;> rename_i h <;> simp [h]

end TopicClient.Assoc
