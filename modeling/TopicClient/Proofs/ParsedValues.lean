import TopicClient.Proofs.ValueText

/-!
# Values that have been read

Whatever a text denotes is a document but for its doubles: names ascend, integers are
in range, and it nests no deeper than a document may.
-/

namespace TopicClient

namespace Json

/-! ## Numbers of a draft -/

/-- A literal that denotes an integer denotes one that a document can hold. -/
theorem Literal.inRange_number? {l : Literal} {n : Number} (h : l.number? = some n) :
    n.InRange := by
  cases n with
  | float x => trivial
  | int i =>
    have hint : l.int? = some i := by
      rw [number?] at h
      cases hi : l.int? with
      | none => simp [hi] at h
      | some j => simpa [hi] using h
    simp only [int?] at hint
    split at hint
    · cases hint
    · split at hint
      · obtain ⟨⟨hpos, hbound⟩, rfl⟩ := by simpa using hint
        exact ⟨by omega, by omega⟩
      · obtain ⟨hbound, rfl⟩ := by simpa using hint
        have hsize : UInt64.size = 0x10000000000000000 := rfl
        exact ⟨by omega, by omega⟩

namespace Draft

mutual

/-- The numbers of the draft are in range. -/
def Ranged : Draft → Prop
  | .num n => ∀ m ∈ n, m.InRange
  | .arr xs => RangedItems xs
  | .obj ms => RangedMembers ms
  | _ => True
termination_by structural d => d

def RangedItems : List Draft → Prop
  | [] => True
  | x :: xs => x.Ranged ∧ RangedItems xs
termination_by structural xs => xs

def RangedMembers : List (Option String × Draft) → Prop
  | [] => True
  | (_, x) :: ms => x.Ranged ∧ RangedMembers ms
termination_by structural ms => ms

end

mutual

theorem ranged_takeValue? {n : Nat} {cs rest : List Char} {d : Draft}
    (h : takeValue? n cs = some (d, rest)) : d.Ranged := by
  match n with
  | 0 => simp [takeValue?] at h
  | n + 1 =>
    simp only [takeValue?] at h
    split at h
    case h_5 =>
      split at h
      · obtain ⟨rfl, -⟩ := by simpa using h
        trivial
      · simp only [Option.bind_eq_bind, Option.bind_eq_some_iff, Prod.exists] at h
        obtain ⟨x, _, hx, xs, _, hxs, heq⟩ := h
        obtain ⟨rfl, -⟩ := by simpa using heq
        exact ⟨ranged_takeValue? hx, ranged_takeItems? hxs⟩
    case h_6 =>
      split at h
      · obtain ⟨rfl, -⟩ := by simpa using h
        trivial
      · simp only [Option.bind_eq_bind, Option.bind_eq_some_iff, Prod.exists] at h
        obtain ⟨name, x, _, hx, ms, _, hms, heq⟩ := h
        obtain ⟨rfl, -⟩ := by simpa using heq
        exact ⟨ranged_takeMember? hx, ranged_takeMembers? hms⟩
    case h_7 =>
      simp only [Option.bind_eq_bind, Option.bind_eq_some_iff, Prod.exists] at h
      obtain ⟨l, _, -, heq⟩ := h
      obtain ⟨rfl, -⟩ := by simpa using heq
      exact fun m hm => Literal.inRange_number? hm
    case h_4 =>
      simp only [Option.bind_eq_bind, Option.bind_eq_some_iff, Prod.exists] at h
      obtain ⟨ps, _, -, heq⟩ := h
      obtain ⟨rfl, -⟩ := by simpa using heq
      trivial
    all_goals
      obtain ⟨rfl, -⟩ := by simpa using h
      trivial
termination_by structural n

theorem ranged_takeItems? {n : Nat} {cs rest : List Char} {xs : List Draft}
    (h : takeItems? n cs = some (xs, rest)) : RangedItems xs := by
  match n with
  | 0 => simp [takeItems?] at h
  | n + 1 =>
    simp only [takeItems?] at h
    split at h
    · obtain ⟨rfl, -⟩ := by simpa using h
      trivial
    · simp only [Option.bind_eq_bind, Option.bind_eq_some_iff, Prod.exists] at h
      obtain ⟨x, _, hx, xs, _, hxs, heq⟩ := h
      obtain ⟨rfl, -⟩ := by simpa using heq
      exact ⟨ranged_takeValue? hx, ranged_takeItems? hxs⟩
    · cases h
termination_by structural n

theorem ranged_takeMember? {n : Nat} {cs rest : List Char} {name : Option String} {d : Draft}
    (h : takeMember? n cs = some ((name, d), rest)) : d.Ranged := by
  match n with
  | 0 => simp [takeMember?] at h
  | n + 1 =>
    simp only [takeMember?] at h
    split at h
    · simp only [Option.bind_eq_bind, Option.bind_eq_some_iff, Prod.exists] at h
      obtain ⟨ps, _, -, h⟩ := h
      split at h
      · simp only [Option.bind_eq_some_iff, Prod.exists] at h
        obtain ⟨x, _, hx, heq⟩ := h
        obtain ⟨⟨-, rfl⟩, -⟩ := by simpa using heq
        exact ranged_takeValue? hx
      · cases h
    · cases h
termination_by structural n

theorem ranged_takeMembers? {n : Nat} {cs rest : List Char}
    {ms : List (Option String × Draft)} (h : takeMembers? n cs = some (ms, rest)) :
    RangedMembers ms := by
  match n with
  | 0 => simp [takeMembers?] at h
  | n + 1 =>
    simp only [takeMembers?] at h
    split at h
    · obtain ⟨rfl, -⟩ := by simpa using h
      trivial
    · simp only [Option.bind_eq_bind, Option.bind_eq_some_iff, Prod.exists] at h
      obtain ⟨name, x, _, hx, ms, _, hms, heq⟩ := h
      obtain ⟨rfl, -⟩ := by simpa using heq
      exact ⟨ranged_takeMember? hx, ranged_takeMembers? hms⟩
    · cases h
termination_by structural n

end

theorem ranged_parse? {cs : List Char} {d : Draft} (h : parse? cs = some d) : d.Ranged := by
  simp only [parse?, Option.bind_eq_bind, Option.bind_eq_some_iff, Prod.exists] at h
  obtain ⟨x, rest, htake, h⟩ := h
  obtain ⟨-, rfl⟩ := by simpa using h
  exact ranged_takeValue? htake

end Draft

/-! ## Values of a draft -/

theorem canonicalMembers_iff {ms : List (String × Json)} :
    CanonicalMembers ms ↔ ∀ e ∈ ms, e.2.Canonical := by
  induction ms with
  | nil => simp [CanonicalMembers]
  | cons m ms ih => simp [CanonicalMembers, ih]

theorem depthMembers_le_iff {ms : List (String × Json)} {n : Nat} :
    depthMembers ms ≤ n ↔ ∀ e ∈ ms, e.2.depth ≤ n := by
  induction ms with
  | nil => simp [depthMembers]
  | cons m ms ih => simp [depthMembers, ih]

/-- Putting members in order leaves them canonical. -/
theorem canonical_object {ms : List (String × Json)} (h : CanonicalMembers ms) :
    (object ms).Canonical :=
  ⟨Assoc.ascending_ofListSorted ms, canonicalMembers_iff.mpr fun e he =>
    canonicalMembers_iff.mp h e (Assoc.mem_of_mem_ofListSorted he)⟩

theorem depth_object_le {ms : List (String × Json)} {n : Nat} (h : depthMembers ms ≤ n) :
    (object ms).depth ≤ n + 1 :=
  Nat.succ_le_succ (depthMembers_le_iff.mpr fun e he =>
    depthMembers_le_iff.mp h e (Assoc.mem_of_mem_ofListSorted he))

namespace Draft

mutual

theorem canonical_json? {room : Nat} {d : Draft} {v : Json} (h : json? room d = some v)
    (ranged : d.Ranged) : v.Canonical ∧ v.depth ≤ room := by
  match d with
  | .null | .bool _ =>
    obtain rfl := by simpa [json?] using h
    exact ⟨trivial, Nat.zero_le _⟩
  | .num n =>
    obtain ⟨m, hm, rfl⟩ := by simpa [json?] using h
    exact ⟨ranged m hm, Nat.zero_le _⟩
  | .str s =>
    obtain ⟨t, -, rfl⟩ := by simpa [json?] using h
    exact ⟨trivial, Nat.zero_le _⟩
  | .arr xs =>
    rw [json?] at h
    split at h
    · cases h
    · obtain ⟨vs, hvs, rfl⟩ := Option.map_eq_some_iff.mp h
      obtain ⟨hcanonical, hdepth⟩ := canonical_jsonItems? hvs ranged
      refine ⟨hcanonical, ?_⟩
      rw [depth]
      omega
  | .obj ms =>
    rw [json?] at h
    split at h
    · cases h
    · obtain ⟨vs, hvs, rfl⟩ := Option.map_eq_some_iff.mp h
      obtain ⟨hcanonical, hdepth⟩ := canonical_jsonMembers? hvs ranged
      have hobject := depth_object_le hdepth
      exact ⟨canonical_object hcanonical, by omega⟩
termination_by structural d

theorem canonical_jsonItems? {room : Nat} {xs : List Draft} {vs : List Json}
    (h : jsonItems? room xs = some vs) (ranged : RangedItems xs) :
    CanonicalItems vs ∧ depthItems vs ≤ room := by
  match xs with
  | [] =>
    obtain rfl := by simpa [jsonItems?] using h
    exact ⟨trivial, Nat.zero_le _⟩
  | x :: xs =>
    simp only [jsonItems?, Option.bind_eq_bind, Option.bind_eq_some_iff] at h
    obtain ⟨v, hv, rest, hrest, heq⟩ := h
    obtain rfl := by simpa using heq
    obtain ⟨hcanonical, hdepth⟩ := canonical_json? hv ranged.1
    obtain ⟨hcanonicals, hdepths⟩ := canonical_jsonItems? hrest ranged.2
    exact ⟨⟨hcanonical, hcanonicals⟩, Nat.max_le.mpr ⟨hdepth, hdepths⟩⟩
termination_by structural xs

theorem canonical_jsonMembers? {room : Nat} {ms : List (Option String × Draft)}
    {vs : List (String × Json)} (h : jsonMembers? room ms = some vs)
    (ranged : RangedMembers ms) : CanonicalMembers vs ∧ depthMembers vs ≤ room := by
  match ms with
  | [] =>
    obtain rfl := by simpa [jsonMembers?] using h
    exact ⟨trivial, Nat.zero_le _⟩
  | (name, x) :: ms =>
    simp only [jsonMembers?, Option.bind_eq_bind, Option.bind_eq_some_iff] at h
    obtain ⟨k, -, v, hv, rest, hrest, heq⟩ := h
    obtain rfl := by simpa using heq
    obtain ⟨hcanonical, hdepth⟩ := canonical_json? hv ranged.1
    obtain ⟨hcanonicals, hdepths⟩ := canonical_jsonMembers? hrest ranged.2
    exact ⟨⟨hcanonical, hcanonicals⟩, Nat.max_le.mpr ⟨hdepth, hdepths⟩⟩
termination_by structural ms

end

end Draft

/-- What has been read is a document if its doubles read back. -/
theorem isDocument_of_parseChars? {cs : List Char} {v : Json} (h : parseChars? cs = some v)
    (floats : v.FloatsReadBack) : v.IsDocument := by
  obtain ⟨d, hparse, hjson⟩ := Option.bind_eq_some_iff.mp h
  obtain ⟨canonical, nesting⟩ := Draft.canonical_json? hjson (Draft.ranged_parse? hparse)
  exact ⟨canonical, nesting, floats⟩

end Json

end TopicClient
