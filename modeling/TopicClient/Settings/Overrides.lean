import TopicClient.Notice
import TopicClient.Settings.Basic

/-!
# Overrides from the environment

Ten variables override ten options, each on its own. A variable that is unset or
empty overrides nothing; one that its option does not accept is reported and
otherwise ignored. Words are compared without regard to the case of letters,
and numbers are decimal digits after an optional plus sign.
-/

namespace TopicClient

/-- The variables that are set. -/
abbrev Environment := List (String × String)

namespace Settings

/-- Only the letters of ASCII have a case here: no other letter has one of them for
its small form but the Kelvin sign, and no word has a k. -/
def folded (word : String) : String := word.map Char.toLower

def boolOf? (text : String) : Option Bool :=
  let word := folded text
  if word ∈ ["true", "1", "yes", "on"] then some true
  else if word ∈ ["false", "0", "no", "off"] then some false
  else none

def versionOf? (text : String) : Option Version :=
  let word := folded text
  if word ∈ ["v1", "1"] then some .v1
  else if word ∈ ["v2", "2"] then some .v2
  else none

def policyOf? (text : String) : Option GiveUpPolicy :=
  GiveUpPolicy.ofName? (folded text)

def unsignedDigits? : List Char → Option Nat
  | [] => none
  | cs => (cs.mapM Json.digit?).map Json.digitsValue

/-- A number of at most the given size. -/
def naturalOf? (limit : Nat) (text : String) : Option Nat := do
  let digits :=
    match text.toList with
    | '+' :: cs => cs
    | cs => cs
  let n ← unsignedDigits? digits
  if n ≤ limit then some n else none

def word64Of? (low high : UInt64) (text : String) : Option UInt64 := do
  let n := UInt64.ofNat (← naturalOf? 0xFFFFFFFFFFFFFFFF text)
  if low ≤ n ∧ n ≤ high then some n else none

def word32Of? (low high : UInt32) (text : String) : Option UInt32 := do
  let n := UInt32.ofNat (← naturalOf? 0xFFFFFFFF text)
  if low ≤ n ∧ n ≤ high then some n else none

/-- The value of a variable that counts. -/
def valueOf? (env : Environment) (name : String) : Option String :=
  match Assoc.find? name env with
  | some "" => none
  | value => value

/-- One override: a variable, its reader, and the option it sets. -/
structure Override where
  name : String
  Value : Type
  read : String → Option Value
  set : Value → Settings → Settings

namespace Override

/-- Takes every text. -/
def plain (name : String) (set : String → Settings → Settings) : Override :=
  ⟨name, String, some, set⟩

def apply (o : Override) (env : Environment) (s : Settings) : Settings :=
  match (valueOf? env o.name).bind o.read with
  | some v => o.set v s
  | none => s

def notices (o : Override) (env : Environment) : List Notice :=
  match valueOf? env o.name with
  | none => []
  | some text =>
    match o.read text with
    | some _ => []
    | none => [.rejectedVariable o.name text]

end Override

/-- The ten overrides, in the order they are applied. -/
def overrides : List Override :=
  [.plain "AMP_SOCKET_URL" fun v s => { s with socketUrl := v },
    .plain "AMP_POLLING_URL" fun v s => { s with pollingUrl := v },
    .plain "AMP_DIAGNOSTICS_URL" fun v s => { s with diagnosticsUrl := some v },
    ⟨"AMP_PROTOCOL", _, versionOf?, fun v s => { s with protocol := v }⟩,
    ⟨"AMP_FORCE_POLLING", _, boolOf?, fun v s => { s with forcePolling := v }⟩,
    ⟨"AMP_TRACK_CHANGES", _, boolOf?, fun v s => { s with trackChanges := v }⟩,
    ⟨"AMP_REQUEST_TIMEOUT_MS", _, word64Of? 0 3600000,
      fun v s => { s with requestTimeoutMs := v }⟩,
    .plain "AMP_LOG_LEVEL" fun v s => { s with logLevel := v },
    ⟨"AMP_GIVE_UP_POLICY", _, policyOf?,
      fun v s => { s with socket.giveUp.policy := v }⟩,
    ⟨"AMP_GIVE_UP_AFTER", _, word32Of? 1 1000000,
      fun v s => { s with socket.giveUp.afterAttempts := v }⟩]

def override (env : Environment) (s : Settings) : Settings :=
  overrides.foldl (fun s o => o.apply env s) s

def overrideNotices (env : Environment) : List Notice :=
  overrides.flatMap fun o => o.notices env

end Settings

end TopicClient
