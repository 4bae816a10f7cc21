import TopicClient.Proofs.Entries
import TopicClient.Proofs.HeaderText
import TopicClient.Settings.Load

/-!
# Settings read back

A record is read from an object by the names of its fields, whatever their order. So settings are
what is read from the document that they are written as.
-/

namespace TopicClient

open Json Json.Draft

namespace Json

theorem find?_sortedMembers (ms : List (String × Json)) (key : String) :
    Assoc.find? key (sortedMembers ms) = (Assoc.find? key ms).map sorted := by
  induction ms with
  | nil => rfl
  | cons e ms ih =>
    obtain ⟨k, v⟩ := e
    by_cases hk : k = key <;> simp [sortedMembers, Assoc.find?, hk, ih]

theorem keys_sortedMembers (ms : List (String × Json)) :
    Assoc.keys (sortedMembers ms) = Assoc.keys ms := by
  induction ms with
  | nil => rfl
  | cons e ms ih => rw [sortedMembers, Assoc.keys_cons, ih, Assoc.keys_cons]

theorem ascending_sorted (v : Json) : Assoc.Ascending v.sorted.members := by
  cases v with
  | obj ms => exact Assoc.ascending_ofListSorted _
  | _ => exact List.Pairwise.nil

/-- Sorting an object without repeated names sorts what is found under each. -/
theorem find?_sorted {v : Json} (h : Assoc.Distinct v.members) (key : String) :
    Assoc.find? key v.sorted.members = (Assoc.find? key v.members).map sorted := by
  cases v with
  | obj ms =>
    have hdistinct : Assoc.Distinct (sortedMembers ms) := by
      rwa [Assoc.Distinct, keys_sortedMembers]
    rw [members, ← find?_sortedMembers]
    exact Assoc.find?_ofListSorted hdistinct key
  | _ => rfl

theorem sorted_of_isObject {v : Json} (h : v.isObject = true) :
    v.sorted = .obj v.sorted.members := by
  cases v with
  | obj ms => rfl
  | _ => cases h

end Json

namespace Json.Draft

theorem named_of_distinct {ms : List (String × Json)} (h : Assoc.Distinct ms) (name : String) :
    named name (ofMembers ms) = ((Assoc.find? name ms).map ofJson).toList := by
  induction ms with
  | nil => rfl
  | cons e ms ih =>
    obtain ⟨k, v⟩ := e
    obtain ⟨hfresh, hrest⟩ := Assoc.distinct_cons.mp h
    rw [Wire.named_cons, ih hrest, Assoc.find?]
    by_cases hk : k = name
    · subst hk
      simp [Assoc.find?_eq_none_iff.mpr hfresh]
    · simp [hk]

/-- The fields of a record are what is found under their names. -/
theorem fields?_of_distinct {ms : List (String × Json)} (h : Assoc.Distinct ms)
    (names : List String) :
    (ofJson (.obj ms)).fields? names =
      some (names.map fun name => (Assoc.find? name ms).map ofJson) := by
  rw [Wire.fields?_ofMembers]
  · simp only [named_of_distinct h]
    congr 2
    funext name
    cases Assoc.find? name ms <;> rfl
  · intro name _
    rw [named_of_distinct h]
    cases Assoc.find? name ms <;> simp

theorem fields?_sorted {v : Json} (hobj : v.isObject = true) (h : Assoc.Distinct v.members)
    (names : List String) :
    (ofJson v.sorted).fields? names =
      some (names.map fun name => (Assoc.find? name v.members).map fun w => ofJson w.sorted) := by
  rw [sorted_of_isObject hobj,
    fields?_of_distinct (Assoc.distinct_of_ascending (ascending_sorted v))]
  simp only [find?_sorted h, Option.map_map]
  rfl

theorem string?_str (s : String) : string? (ofJson (.str s)) = some s := rfl

theorem bool?_bool (b : Bool) : bool? (ofJson (.bool b)) = some b := rfl

theorem uint64?_wordJson (n : UInt64) : uint64? (ofJson (wordJson n)) = some n :=
  Wire.uint64?_idJson n

theorem uint32?_nat (n : UInt32) : uint32? (ofJson (Json.nat n.toNat)) = some n := by
  have hlt := n.toNat_lt
  have hrange : (0 : Int) ≤ n.toNat ∧ (n.toNat : Int) ≤ 0xFFFFFFFF := by omega
  simp [uint32?, ofJson, Json.nat, intBetween?, hrange]

end Json.Draft

theorem GiveUpSettings.policy?_name (p : GiveUpPolicy) :
    GiveUpSettings.policy? (ofJson (.str p.name)) = some p := by
  cases p <;> rfl

theorem Settings.version?_name (v : Version) :
    Settings.version? (ofJson (.str v.name)) = some v := by
  cases v <;> rfl

/-! ## Reading back -/

namespace GiveUpSettings

theorem distinct_document (s : GiveUpSettings) : Assoc.Distinct s.document.members :=
  (by decide : ["policy", "afterAttempts"].Nodup)

theorem fields?_document (s : GiveUpSettings) :
    (ofJson s.document.sorted).fields? ["policy", "afterAttempts"] =
      some [some (ofJson (.str s.policy.name)),
        some (ofJson (Json.nat s.afterAttempts.toNat))] := by
  rw [fields?_sorted rfl s.distinct_document]
  rfl

theorem ofDraft?_document (s : GiveUpSettings) : ofDraft? (ofJson s.document.sorted) = some s := by
  rw [ofDraft?, fields?_document]
  simp [fieldOr, policy?_name, uint32?_nat]

end GiveUpSettings

namespace SocketSettings

theorem distinct_document (s : SocketSettings) : Assoc.Distinct s.document.members :=
  (by decide : ["pingIntervalMs", "healthyPingIntervalMs", "pongTimeoutMs", "connectTimeoutMs",
    "reconnectUnitMs", "reconnectCap", "giveUp"].Nodup)

theorem fields?_document (s : SocketSettings) :
    (ofJson s.document.sorted).fields? ["pingIntervalMs", "healthyPingIntervalMs",
      "pongTimeoutMs", "connectTimeoutMs", "reconnectUnitMs", "reconnectCap", "giveUp"] =
      some [some (ofJson (wordJson s.pingIntervalMs)),
        some (ofJson (wordJson s.healthyPingIntervalMs)),
        some (ofJson (wordJson s.pongTimeoutMs)), some (ofJson (wordJson s.connectTimeoutMs)),
        some (ofJson (wordJson s.reconnectUnitMs)),
        some (ofJson (Json.nat s.reconnectCap.toNat)),
        some (ofJson s.giveUp.document.sorted)] := by
  rw [fields?_sorted rfl s.distinct_document]
  rfl

theorem ofDraft?_document (s : SocketSettings) : ofDraft? (ofJson s.document.sorted) = some s := by
  rw [ofDraft?, fields?_document]
  simp [fieldOr, uint64?_wordJson, uint32?_nat, GiveUpSettings.ofDraft?_document]

end SocketSettings

namespace PollingSettings

theorem distinct_document (s : PollingSettings) : Assoc.Distinct s.document.members :=
  List.nodup_singleton _

theorem fields?_document (s : PollingSettings) :
    (ofJson s.document.sorted).fields? ["retryDelayMs"] =
      some [some (ofJson (wordJson s.retryDelayMs))] := by
  rw [fields?_sorted rfl s.distinct_document]
  rfl

theorem ofDraft?_document (s : PollingSettings) :
    ofDraft? (ofJson s.document.sorted) = some s := by
  rw [ofDraft?, fields?_document]
  simp [fieldOr, uint64?_wordJson]

end PollingSettings

namespace Settings

theorem distinct_document (s : Settings) : Assoc.Distinct s.document.members := by
  have hall : ["socketUrl", "pollingUrl", "diagnosticsUrl", "protocol", "forcePolling",
      "trackChanges", "requestTimeoutMs", "logTransportChanges", "logLevel", "socket",
      "polling"].Nodup := by decide
  rw [Assoc.Distinct, document]
  cases s.diagnosticsUrl with
  | none => exact hall.erase "diagnosticsUrl"
  | some url => exact hall

theorem fields?_document (s : Settings) :
    (ofJson s.toJson).fields? ["socketUrl", "pollingUrl", "diagnosticsUrl", "protocol",
      "forcePolling", "trackChanges", "requestTimeoutMs", "logTransportChanges", "logLevel",
      "socket", "polling"] =
      some [some (ofJson (.str s.socketUrl)), some (ofJson (.str s.pollingUrl)),
        s.diagnosticsUrl.map fun url => ofJson (.str url), some (ofJson (.str s.protocol.name)),
        some (ofJson (.bool s.forcePolling)), some (ofJson (.bool s.trackChanges)),
        some (ofJson (wordJson s.requestTimeoutMs)),
        some (ofJson (.bool s.logTransportChanges)), some (ofJson (.str s.logLevel)),
        some (ofJson s.socket.document.sorted), some (ofJson s.polling.document.sorted)] := by
  rw [toJson, fields?_sorted rfl s.distinct_document, document]
  cases s.diagnosticsUrl <;> rfl

/-- Settings are what is read from the value that they are saved as. -/
theorem ofJson?_toJson (s : Settings) : ofJson? s.toJson = some s := by
  rw [ofJson?, ofDraft?, fields?_document]
  simp only [fieldOr, string?_str, bool?_bool, Wire.read_text, version?_name, uint64?_wordJson,
    SocketSettings.ofDraft?_document, PollingSettings.ofDraft?_document, Option.bind_eq_bind,
    Option.bind_some]

end Settings

end TopicClient
