import Mathlib.Data.List.ReduceOption
import Mathlib.Data.List.TakeDrop
import TopicClient.Proofs.Entries
import TopicClient.Settings.Overrides

/-!
# Options and their variables

An override sets one part of the settings and spares every other part. So what becomes of an
option is decided by the option and by the one variable that overrides it, whatever the other
variables hold, and a part that no override sets stays as it was.
-/

namespace TopicClient

attribute [ext] Settings SocketSettings GiveUpSettings

namespace Settings

/-! ## One option -/

/-- An option after its variable: what the variable says, if it is set to a text that is not empty
and is accepted, and else the option as it was. -/
def overridden {α : Type} (env : Environment) (name : String) (read : String → Option α)
    (old : α) : α :=
  match Assoc.find? name env with
  | none => old
  | some text => if text = "" then old else (read text).getD old

/-- The report of a variable that is set to a text that is neither empty nor accepted. -/
def rejection? {α : Type} (env : Environment) (name : String) (read : String → Option α) :
    Option Notice :=
  match Assoc.find? name env with
  | none => none
  | some text =>
    if text = "" then none
    else if (read text).isSome then none
    else some (.rejectedVariable name text)

/-- The number that a text says, if it lies in the range. -/
def numberIn? (low high : Nat) (text : String) : Option Nat :=
  (naturalOf? high text).filter (low ≤ ·)

section One
variable {α β : Type} (env : Environment) (name : String) (read : String → Option α)

theorem valueOf?_eq :
    valueOf? env name = (Assoc.find? name env).filter fun text => text != "" := by
  rw [valueOf?]
  split
  case h_1 h => rw [h]; rfl
  case h_2 value hne =>
    cases hfound : Assoc.find? name env with
    | none => rfl
    | some text =>
      have htext : text ≠ "" := fun h => hne (by rw [hfound, h])
      simp [Option.filter, htext]

theorem overridden_eq (old : α) :
    overridden env name read old = ((valueOf? env name).bind read).getD old := by
  rw [overridden, valueOf?_eq]
  cases Assoc.find? name env with
  | none => rfl
  | some text => by_cases h : text = "" <;> simp [Option.filter, h]

/-- The variable has its say once. -/
theorem overridden_again (old : α) :
    overridden env name read (overridden env name read old) = overridden env name read old := by
  simp only [overridden_eq]
  cases (valueOf? env name).bind read <;> rfl

/-- Only a text that is not accepted is reported, with the name of its variable. -/
theorem rejection?_eq_some_iff {n : Notice} :
    rejection? env name read = some n ↔
      ∃ text, Assoc.find? name env = some text ∧ text ≠ "" ∧ read text = none ∧
        n = .rejectedVariable name text := by
  rw [rejection?]
  cases Assoc.find? name env with
  | none => simp
  | some text =>
    by_cases htext : text = ""
    · simp [htext]
    · cases hread : read text <;> simp [htext, hread, eq_comm]

theorem rejection?_map (f : α → β) :
    rejection? env name (fun text => (read text).map f) = rejection? env name read := by
  simp only [rejection?, Option.isSome_map]

theorem rejection?_some : rejection? env name some = none := by
  rw [rejection?]
  split
  · rfl
  · simp

end One

/-! ## Numbers in a range -/

/-- A smaller limit takes fewer numbers and no other ones. -/
theorem naturalOf?_filter {limit bound : Nat} (h : limit ≤ bound) (text : String) :
    (naturalOf? bound text).filter (· ≤ limit) = naturalOf? limit text := by
  rw [naturalOf?, naturalOf?]
  generalize unsignedDigits? _ = found
  cases found with
  | none => rfl
  | some n =>
    by_cases hlimit : n ≤ limit
    · have hbound : n ≤ bound := by omega
      simp [Option.filter, hlimit, hbound]
    · by_cases hbound : n ≤ bound <;> simp [Option.filter, hlimit, hbound]

theorem le_of_naturalOf? {limit n : Nat} {text : String} (h : naturalOf? limit text = some n) :
    n ≤ limit := by
  rw [← naturalOf?_filter le_rfl, Option.filter_eq_some_iff] at h
  simpa using h.2

/-- A number that is turned into a word and then compared might as well be compared first. -/
theorem bind_word {ω : Type} {word : Nat → ω} (fits : ω → Prop) [DecidablePred fits]
    {low high : Nat} {found : Option Nat}
    (h : ∀ n, found = some n → (fits (word n) ↔ low ≤ n ∧ n ≤ high)) :
    (found.bind fun n => if fits (word n) then some (word n) else none) =
      ((found.filter (· ≤ high)).filter (low ≤ ·)).map word := by
  cases found with
  | none => rfl
  | some n =>
    have hn := h n rfl
    by_cases hlow : low ≤ n <;> by_cases hhigh : n ≤ high <;>
      simp [Option.filter, hn, hlow, hhigh]

/-- The width of the word never shows: a number in the range fits it. -/
theorem word64Of?_eq (low high : UInt64) :
    word64Of? low high = fun text => (numberIn? low.toNat high.toNat text).map UInt64.ofNat := by
  funext text
  have hlt := high.toNat_lt
  have hhigh : high.toNat ≤ 0xFFFFFFFFFFFFFFFF := by omega
  rw [numberIn?, ← naturalOf?_filter hhigh, word64Of?]
  refine bind_word (fun n => low ≤ n ∧ n ≤ high) ?_
  intro n hn
  have hbound := le_of_naturalOf? hn
  have hword : (UInt64.ofNat n).toNat = n := UInt64.toNat_ofNat_of_lt' (Nat.lt_succ_of_le hbound)
  rw [UInt64.le_iff_toNat_le, UInt64.le_iff_toNat_le, hword]

theorem word32Of?_eq (low high : UInt32) :
    word32Of? low high = fun text => (numberIn? low.toNat high.toNat text).map UInt32.ofNat := by
  funext text
  have hlt := high.toNat_lt
  have hhigh : high.toNat ≤ 0xFFFFFFFF := by omega
  rw [numberIn?, ← naturalOf?_filter hhigh, word32Of?]
  refine bind_word (fun n => low ≤ n ∧ n ≤ high) ?_
  intro n hn
  have hbound := le_of_naturalOf? hn
  have hword : (UInt32.ofNat n).toNat = n := UInt32.toNat_ofNat_of_lt' (Nat.lt_succ_of_le hbound)
  rw [UInt32.le_iff_toNat_le, UInt32.le_iff_toNat_le, hword]

/-! ## One override among others -/

namespace Override
variable {β : Type} {o : Override} {part : Settings → β}

/-- Whatever the override sets, this part of the settings stays. -/
def Spares (o : Override) (part : Settings → β) : Prop :=
  ∀ v s, part (o.set v s) = part s

/-- The reader of an option is the reader of its override, put into the option. -/
def Sets (o : Override) (part : Settings → β) (read : String → Option β) : Prop :=
  ∀ text s, (o.read text).map (fun v => part (o.set v s)) = read text

theorem Sets.apply {read : String → Option β} (h : o.Sets part read) (env : Environment)
    (s : Settings) : part (o.apply env s) = overridden env o.name read (part s) := by
  rw [overridden_eq, Override.apply]
  cases valueOf? env o.name with
  | none => rfl
  | some text =>
    simp only [Option.bind_some, ← h text s]
    cases o.read text <;> rfl

theorem Spares.apply (h : o.Spares part) (env : Environment) (s : Settings) :
    part (o.apply env s) = part s := by
  rw [Override.apply]
  split
  · exact h _ s
  · rfl

theorem Spares.run {os : List Override} (h : ∀ o ∈ os, o.Spares part) (env : Environment)
    (s : Settings) : part (os.foldl (fun s o => o.apply env s) s) = part s := by
  induction os generalizing s with
  | nil => rfl
  | cons o os ih =>
    obtain ⟨ho, hos⟩ := List.forall_mem_cons.mp h
    rw [List.foldl_cons, ih hos, ho.apply]

theorem notices_eq (o : Override) (env : Environment) :
    o.notices env = (rejection? env o.name o.read).toList := by
  rw [notices, rejection?, valueOf?_eq]
  cases Assoc.find? o.name env with
  | none => rfl
  | some text =>
    by_cases htext : text = ""
    · simp [Option.filter, htext]
    · cases hread : o.read text <;> simp [Option.filter, htext, hread]

end Override

section Options
variable {β : Type} (part : Settings → β) (env : Environment) (s : Settings)

/-- A part that no override sets. -/
theorem part_override_spared (others : ∀ o ∈ overrides, o.Spares part) :
    part (s.override env) = part s :=
  Override.Spares.run others env s

/-- A part that one override sets is up to that override and its variable: the ones before it
and those after it leave the part alone. -/
theorem part_override (i : Nat) {o : Override} (hi : overrides[i]? = some o)
    {read : String → Option β} (own : o.Sets part read)
    (others : ∀ p ∈ overrides.eraseIdx i, p.Spares part) :
    part (s.override env) = overridden env o.name read (part s) := by
  have hsplit : overrides = overrides.take i ++ o :: overrides.drop (i + 1) := by
    obtain ⟨hlt, rfl⟩ := List.getElem?_eq_some_iff.mp hi
    rw [List.cons_getElem_drop_succ, List.take_append_drop]
  rw [List.eraseIdx_eq_take_drop_succ] at others
  have hbefore : ∀ p ∈ overrides.take i, p.Spares part := fun p hp =>
    others p (List.mem_append_left _ hp)
  have hafter : ∀ p ∈ overrides.drop (i + 1), p.Spares part := fun p hp =>
    others p (List.mem_append_right _ hp)
  rw [override, hsplit, List.foldl_append, List.foldl_cons, Override.Spares.run hafter,
    own.apply, Override.Spares.run hbefore]

end Options

/-! ## No variable -/

section Unset
variable {env : Environment}

theorem Override.run_of_unset {os : List Override} (unset : ∀ o ∈ os, o.name ∉ Assoc.keys env)
    (s : Settings) : os.foldl (fun s o => o.apply env s) s = s := by
  induction os with
  | nil => rfl
  | cons o os ih =>
    obtain ⟨ho, hos⟩ := List.forall_mem_cons.mp unset
    have hstays : o.apply env s = s := by
      rw [apply, valueOf?_eq, Assoc.find?_eq_none_iff.mpr ho]
      rfl
    rw [List.foldl_cons, hstays, ih hos]

theorem override_of_unset (unset : ∀ o ∈ overrides, o.name ∉ Assoc.keys env) (s : Settings) :
    s.override env = s :=
  Override.run_of_unset unset s

theorem overrideNotices_of_unset (unset : ∀ o ∈ overrides, o.name ∉ Assoc.keys env) :
    overrideNotices env = [] := by
  rw [overrideNotices, List.flatMap_eq_nil_iff]
  intro o ho
  rw [Override.notices_eq, rejection?, Assoc.find?_eq_none_iff.mpr (unset o ho)]
  rfl

end Unset

/-! ## All options -/

/-- The settings with every option after its own variable and all else as it was. -/
def optionwise (s : Settings) (env : Environment) : Settings :=
  { s with
    socketUrl := overridden env "AMP_SOCKET_URL" some s.socketUrl
    pollingUrl := overridden env "AMP_POLLING_URL" some s.pollingUrl
    diagnosticsUrl :=
      overridden env "AMP_DIAGNOSTICS_URL" (fun text => some (some text)) s.diagnosticsUrl
    protocol := overridden env "AMP_PROTOCOL" versionOf? s.protocol
    forcePolling := overridden env "AMP_FORCE_POLLING" boolOf? s.forcePolling
    trackChanges := overridden env "AMP_TRACK_CHANGES" boolOf? s.trackChanges
    requestTimeoutMs := overridden env "AMP_REQUEST_TIMEOUT_MS"
      (fun text => (numberIn? 0 3600000 text).map UInt64.ofNat) s.requestTimeoutMs
    logLevel := overridden env "AMP_LOG_LEVEL" some s.logLevel
    socket.giveUp.policy := overridden env "AMP_GIVE_UP_POLICY" policyOf? s.socket.giveUp.policy
    socket.giveUp.afterAttempts := overridden env "AMP_GIVE_UP_AFTER"
      (fun text => (numberIn? 1 1000000 text).map UInt32.ofNat) s.socket.giveUp.afterAttempts }

/-- What is reported of the variables, in their order. The options that take every text have
nothing to report. -/
def rejections (env : Environment) : List Notice :=
  [rejection? env "AMP_PROTOCOL" versionOf?,
    rejection? env "AMP_FORCE_POLLING" boolOf?,
    rejection? env "AMP_TRACK_CHANGES" boolOf?,
    rejection? env "AMP_REQUEST_TIMEOUT_MS" (numberIn? 0 3600000),
    rejection? env "AMP_GIVE_UP_POLICY" policyOf?,
    rejection? env "AMP_GIVE_UP_AFTER" (numberIn? 1 1000000)].reduceOption

section All
variable (env : Environment) (s : Settings)

theorem override_eq : s.override env = s.optionwise env := by
  have hsocketUrl : (s.override env).socketUrl =
      overridden env "AMP_SOCKET_URL" some s.socketUrl :=
    part_override socketUrl env s 0 rfl (fun _ _ => rfl)
      (by simp [overrides, Override.plain, Override.Spares])
  have hpollingUrl : (s.override env).pollingUrl =
      overridden env "AMP_POLLING_URL" some s.pollingUrl :=
    part_override pollingUrl env s 1 rfl (fun _ _ => rfl)
      (by simp [overrides, Override.plain, Override.Spares])
  have hdiagnostics : (s.override env).diagnosticsUrl =
      overridden env "AMP_DIAGNOSTICS_URL" (fun text => some (some text)) s.diagnosticsUrl :=
    part_override diagnosticsUrl env s 2 rfl (fun _ _ => rfl)
      (by simp [overrides, Override.plain, Override.Spares])
  have hprotocol : (s.override env).protocol =
      overridden env "AMP_PROTOCOL" versionOf? s.protocol :=
    part_override protocol env s 3 rfl (fun _ _ => Option.map_id')
      (by simp [overrides, Override.plain, Override.Spares])
  have hforce : (s.override env).forcePolling =
      overridden env "AMP_FORCE_POLLING" boolOf? s.forcePolling :=
    part_override forcePolling env s 4 rfl (fun _ _ => Option.map_id')
      (by simp [overrides, Override.plain, Override.Spares])
  have htrack : (s.override env).trackChanges =
      overridden env "AMP_TRACK_CHANGES" boolOf? s.trackChanges :=
    part_override trackChanges env s 5 rfl (fun _ _ => Option.map_id')
      (by simp [overrides, Override.plain, Override.Spares])
  have htimeout : (s.override env).requestTimeoutMs = overridden env "AMP_REQUEST_TIMEOUT_MS"
      (fun text => (numberIn? 0 3600000 text).map UInt64.ofNat) s.requestTimeoutMs :=
    part_override requestTimeoutMs env s 6 rfl
      (fun text _ => Option.map_id'.trans (congrFun (word64Of?_eq 0 3600000) text))
      (by simp [overrides, Override.plain, Override.Spares])
  have hlevel : (s.override env).logLevel =
      overridden env "AMP_LOG_LEVEL" some s.logLevel :=
    part_override logLevel env s 7 rfl (fun _ _ => rfl)
      (by simp [overrides, Override.plain, Override.Spares])
  have hpolicy : (s.override env).socket.giveUp.policy =
      overridden env "AMP_GIVE_UP_POLICY" policyOf? s.socket.giveUp.policy :=
    part_override (·.socket.giveUp.policy) env s 8 rfl (fun _ _ => Option.map_id')
      (by simp [overrides, Override.plain, Override.Spares])
  have hafter : (s.override env).socket.giveUp.afterAttempts = overridden env "AMP_GIVE_UP_AFTER"
      (fun text => (numberIn? 1 1000000 text).map UInt32.ofNat)
      s.socket.giveUp.afterAttempts :=
    part_override (·.socket.giveUp.afterAttempts) env s 9 rfl
      (fun text _ => Option.map_id'.trans (congrFun (word32Of?_eq 1 1000000) text))
      (by simp [overrides, Override.plain, Override.Spares])
  -- the rest of the settings, which no override sets
  have hspared := part_override_spared
    (fun s => ({ s.socket with giveUp := {} }, s.polling, s.logTransportChanges)) env s (by
      simp [overrides, Override.plain, Override.Spares])
  simp only [Prod.mk.injEq, SocketSettings.mk.injEq] at hspared
  obtain ⟨⟨hping, hhealthy, hpong, hconnect, hunit, hcap, -⟩, hpolling, hlog⟩ := hspared
  refine Settings.ext hsocketUrl hpollingUrl hdiagnostics hprotocol hforce htrack htimeout hlog
    hlevel ?_ hpolling
  refine SocketSettings.ext hping hhealthy hpong hconnect hunit hcap ?_
  exact GiveUpSettings.ext hpolicy hafter

theorem overrideNotices_eq : overrideNotices env = rejections env := by
  rw [rejections, List.reduceOption, List.filterMap_eq_flatMap_toList, overrideNotices, overrides]
  simp only [List.flatMap_cons, Override.notices_eq, Override.plain, rejection?_some,
    Option.toList_none, List.nil_append, word64Of?_eq, word32Of?_eq, rejection?_map]
  rfl

theorem optionwise_again : (s.optionwise env).optionwise env = s.optionwise env := by
  simp only [optionwise, overridden_again]

theorem level_of_mem_overrideNotices {n : Notice} (h : n ∈ overrideNotices env) :
    n.level = .warn := by
  obtain ⟨o, -, hn⟩ := List.mem_flatMap.mp h
  rw [Override.notices_eq, Option.mem_toList, rejection?_eq_some_iff] at hn
  obtain ⟨text, -, -, -, rfl⟩ := hn
  rfl

/-- Every option is up to itself and its own variable: it becomes what the variable says, if that
is set, is not empty and is accepted, and stays as it was otherwise. Nothing else changes. Each
variable that is set, is not empty and is not accepted is reported once, as a warning with its
name and its text, in the order of the variables. The same variables change nothing again. -/
theorem override_optionwise :
    s.override env = s.optionwise env ∧
      overrideNotices env = rejections env ∧ (∀ n ∈ overrideNotices env, n.level = .warn) ∧
      (s.override env).override env = s.override env := by
  refine ⟨override_eq env s, overrideNotices_eq env, ?_, ?_⟩
  · intro n hn
    exact level_of_mem_overrideNotices env hn
  · rw [override_eq, override_eq, optionwise_again]

end All

end Settings

end TopicClient
