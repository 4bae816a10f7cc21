import TopicClient.Proofs.StatusHistory

/-!
# Retries

The first pong of a connection sets the retries to the attempts begun so far. So they tell how
many attempts it took to be answered the last time, and how many it took the first time only as
long as no later attempt is answered. All counts are words, and go round.
-/

namespace TopicClient.ConnectionStatus

/-- The ways to split a list that has grown by one at its end. -/
theorem forall_split_snoc {α : Type} {p : List α → α → Prop} {l : List α} {e : α} :
    (∀ mid x last, l ++ [e] = mid ++ x :: last → p mid x) ↔
      (∀ mid x last, l = mid ++ x :: last → p mid x) ∧ p l e := by
  constructor
  · intro h
    refine ⟨fun mid x last hsplit => h mid x (last ++ [e]) ?_, h l e [] rfl⟩
    rw [hsplit, List.append_assoc, List.cons_append]
  · rintro ⟨hbefore, hlast⟩ mid x last hsplit
    rcases List.eq_nil_or_concat last with rfl | ⟨last, f, rfl⟩
    · obtain ⟨rfl, hx⟩ := List.append_inj' hsplit rfl
      exact List.singleton_inj.mp hx ▸ hlast
    · rw [List.concat_eq_append, ← List.cons_append, ← List.append_assoc] at hsplit
      exact hbefore mid x last (List.append_inj_left' hsplit rfl)

section Retries
variable {start : Nat} {ops : List (Nat × StatusOp)}

/-- A pong counts the attempts anew unless its connection has answered before. -/
theorem retries_snoc (start : Nat) (ops : List (Nat × StatusOp)) (e : Nat × StatusOp) :
    (after start (ops ++ [e])).retries =
      if e.2 = .pong ∧ answered ops = false then .ofNat (attempts ops)
      else (after start ops).retries := by
  have htold := told_after start ops
  rw [after_snoc, perform_retries, htold.connected, htold.connects]

theorem retries_of_never (h : everAnswered ops = false) : (after start ops).retries = 0 := by
  induction ops using List.reverseRecOn with
  | nil => rfl
  | append_singleton ops e ih =>
    rw [everAnswered_append, Bool.or_eq_false_iff] at h
    have hother : e.2 ≠ .pong := by simpa [everAnswered] using h.2
    rw [retries_snoc, if_neg fun hpong => hother hpong.1, ih h.1]

/-- No pong of a run after earlier operations comes on a connection that has not answered. -/
def NoneFirst (before ops : List (Nat × StatusOp)) : Prop :=
  ∀ mid e last, ops = mid ++ e :: last → e.2 = .pong → answered (before ++ mid) = true

theorem retries_of_noneFirst {before : List (Nat × StatusOp)} (h : NoneFirst before ops) :
    (after start (before ++ ops)).retries = (after start before).retries := by
  induction ops using List.reverseRecOn with
  | nil => rw [List.append_nil]
  | append_singleton ops e ih =>
    obtain ⟨hbefore, hlast⟩ := forall_split_snoc.mp h
    have hagain : ¬ (e.2 = .pong ∧ answered (before ++ ops) = false) := by
      rintro ⟨hpong, hfirst⟩
      rw [hlast hpong] at hfirst
      cases hfirst
    rw [← List.append_assoc, retries_snoc, if_neg hagain, ih hbefore]

/-- Once a pong has come, there is a latest one that came first on its connection. -/
theorem exists_latest_first (h : everAnswered ops = true) :
    ∃ before e rest, ops = before ++ e :: rest ∧ e.2 = .pong ∧ answered before = false ∧
      NoneFirst (before ++ [e]) rest := by
  induction ops using List.reverseRecOn with
  | nil => cases h
  | append_singleton ops e ih =>
    by_cases hfirst : e.2 = .pong ∧ answered ops = false
    · exact ⟨ops, e, [], rfl, hfirst.1, hfirst.2, by simp [NoneFirst]⟩
    · have hknown : e.2 = .pong → answered ops = true := by simpa using hfirst
      have hearlier : everAnswered ops = true := by
        rw [everAnswered_append, Bool.or_eq_true] at h
        rcases h with h | h
        · exact h
        · exact everAnswered_of_answered (hknown (by simpa [everAnswered] using h))
      obtain ⟨before, f, rest, rfl, hpong, hunanswered, hnone⟩ := ih hearlier
      refine ⟨before, f, rest ++ [e], by simp, hpong, hunanswered, ?_⟩
      refine forall_split_snoc.mpr ⟨hnone, ?_⟩
      rwa [List.append_assoc, List.singleton_append]

theorem retries_concat_pong {e : Nat × StatusOp} (hpong : e.2 = .pong)
    (hunanswered : answered ops = false) :
    (after start (ops ++ [e])).retries = .ofNat (attempts ops) := by
  rw [retries_snoc, if_pos ⟨hpong, hunanswered⟩]

/-- More attempts are another count, as long as it has not gone round. -/
theorem ofNat_attempts_add_eq_iff {before more : Nat} (hfew : more < 2 ^ 32) :
    UInt32.ofNat (before + more) = UInt32.ofNat before ↔ more = 0 := by
  rw [← UInt32.toNat_inj, UInt32.toNat_ofNat', UInt32.toNat_ofNat']
  omega

/-- The count of the first pong stands just as long as no later attempt is answered. -/
theorem retries_eq_first_iff {before : List (Nat × StatusOp)} {e : Nat × StatusOp}
    (hpong : e.2 = .pong) (hunanswered : answered before = false)
    (hfew : attempts ops < 2 ^ 32) :
    (after start (before ++ e :: ops)).retries = .ofNat (attempts before) ↔
      ∀ mid f last, ops = mid ++ f :: last → f.2 = .pong →
        answered (before ++ e :: mid) = false → attempts mid = 0 := by
  induction ops using List.reverseRecOn with
  | nil =>
    rw [retries_concat_pong hpong hunanswered]
    simp
  | append_singleton ops f ih =>
    rw [attempts_append] at hfew
    have hbefore : attempts ops < 2 ^ 32 := by omega
    rw [forall_split_snoc, ← List.cons_append, ← List.append_assoc, retries_snoc]
    by_cases hfirst : f.2 = .pong ∧ answered (before ++ e :: ops) = false
    · have hnone : ¬ e.2 = .attempt := by rw [hpong]; nofun
      have hsum : attempts (before ++ e :: ops) = attempts before + attempts ops := by
        rw [attempts_append]
        simp [attempts, hnone]
      rw [if_pos hfirst, hsum, ofNat_attempts_add_eq_iff hbefore]
      constructor
      · intro hzero
        refine ⟨?_, fun _ _ => hzero⟩
        rintro mid g last rfl - -
        rw [attempts_append] at hzero
        exact Nat.eq_zero_of_add_eq_zero_right hzero
      · rintro ⟨-, hzero⟩
        exact hzero hfirst.1 hfirst.2
    · rw [if_neg hfirst, ih hbefore]
      simp only [not_and] at hfirst
      refine ⟨fun h => ⟨h, fun hf hunknown => absurd hunknown (hfirst hf)⟩, fun h => h.1⟩

end Retries

/-- The retries are the attempts begun before the latest pong that was the first one of its
connection. They stay what they were at the first pong of all just as long as no attempt begun
after it comes to be answered, as far as the attempts since can be counted. -/
theorem retries_latest (start : Nat) (ops : List (Nat × StatusOp)) :
    let s := after start ops
    (everAnswered ops = false → s.retries = 0) ∧
    (everAnswered ops = true → ∃ before e rest, ops = before ++ e :: rest ∧ e.2 = .pong ∧
      answered before = false ∧ NoneFirst (before ++ [e]) rest ∧
      s.retries = .ofNat (attempts before)) ∧
    ∀ before e rest, ops = before ++ e :: rest → e.2 = .pong → everAnswered before = false →
      attempts rest < 2 ^ 32 →
      (s.retries = .ofNat (attempts before) ↔ ∀ mid f last, rest = mid ++ f :: last →
        f.2 = .pong → answered (before ++ e :: mid) = false → attempts mid = 0) := by
  refine ⟨retries_of_never, ?_, ?_⟩
  · intro hever
    obtain ⟨before, e, rest, rfl, hpong, hunanswered, hnone⟩ := exists_latest_first hever
    refine ⟨before, e, rest, rfl, hpong, hunanswered, hnone, ?_⟩
    rw [← List.singleton_append, ← List.append_assoc, retries_of_noneFirst hnone,
      retries_concat_pong hpong hunanswered]
  · rintro before e rest rfl hpong hnever hfew
    have hunanswered : answered before = false := by
      rw [Bool.eq_false_iff] at hnever ⊢
      exact fun h => hnever (everAnswered_of_answered h)
    exact retries_eq_first_iff hpong hunanswered hfew

/-- The first pong comes after one attempt. The pong of a second connection makes it two. -/
theorem retries_counted_anew :
    let first : List (Nat × StatusOp) := [(0, .attempt)]
    let later : List (Nat × StatusOp) := [(0, .disconnected), (0, .attempt), (0, .pong)]
    everAnswered first = false ∧ attempts first = 1 ∧
      (after 0 (first ++ [(0, .pong)])).retries = 1 ∧
      (after 0 (first ++ (0, .pong) :: later)).retries = 2 := by
  decide

/-- Two attempts before the first pong, and none after it that is answered. -/
theorem retries_latest_kept :
    let first : List (Nat × StatusOp) := [(0, .attempt), (0, .attempt)]
    let later : List (Nat × StatusOp) := [(1, .disconnected), (2, .attempt), (3, .opened)]
    (after 0 (first ++ (0, .pong) :: later)).retries = 2 := by
  intro first later
  obtain ⟨-, -, hfirst⟩ := retries_latest 0 (first ++ (0, .pong) :: later)
  refine (hfirst first (0, .pong) later rfl rfl (by decide) (by decide)).mpr ?_
  intro mid f last hlater hpong
  have hmem : f ∈ later := hlater ▸ List.mem_append_right mid List.mem_cons_self
  simp only [later, List.mem_cons, List.not_mem_nil, or_false] at hmem
  rcases hmem with rfl | rfl | rfl <;> cases hpong

end TopicClient.ConnectionStatus
