import TopicClient.Proofs.Overlays
import TopicClient.Proofs.ParsedValues
import TopicClient.Proofs.Patch
import TopicClient.Proofs.SavedSettings

/-!
# Defaults filled in

Two ways lead from a document to settings. It may be laid over the saved defaults and read then,
or it may be read at once, where every missing field takes its default. They agree once the null
members are dropped from the settings and from the records in them, and nowhere else.
-/

namespace TopicClient

open Json Json.Draft

namespace Json

/-! ## Dropping nulls -/

def trimmedMembers (inner : String → Json → Json) (ms : List (String × Json)) :
    List (String × Json) :=
  (ms.filter fun e => !e.2.isNull).map fun e => (e.1, inner e.1 e.2)

/-- An object without its null members and with the others changed as their names ask for. -/
def trimmed (inner : String → Json → Json) : Json → Json
  | .obj ms => .obj (trimmedMembers inner ms)
  | v => v

/-- An object without its null members. -/
def withoutNulls (v : Json) : Json := v.trimmed fun _ w => w

end Json

namespace SocketSettings

/-- A record within the record is trimmed too. -/
def trimMember (name : String) (v : Json) : Json :=
  if name = "giveUp" then v.withoutNulls else v

/-- Null members dropped from the record and from the one in it. -/
def withoutNulls (v : Json) : Json := v.trimmed trimMember

end SocketSettings

namespace Settings

def trimMember (name : String) (v : Json) : Json :=
  if name = "socket" then SocketSettings.withoutNulls v
  else if name = "polling" then v.withoutNulls
  else v

/-- Null members dropped from the settings and from the records in them. -/
def withoutNulls (v : Json) : Json := v.trimmed trimMember

end Settings

namespace Json

theorem trimmedMembers_cons (inner : String → Json → Json) (k : String) (v : Json)
    (ms : List (String × Json)) :
    trimmedMembers inner ((k, v) :: ms) =
      if v.isNull then trimmedMembers inner ms else (k, inner k v) :: trimmedMembers inner ms := by
  cases hnull : v.isNull <;> simp [trimmedMembers, hnull]

theorem find?_trimmedMembers {inner : String → Json → Json} {ms : List (String × Json)}
    (h : Assoc.Distinct ms) (key : String) :
    Assoc.find? key (trimmedMembers inner ms) =
      ((Assoc.find? key ms).filter fun v => !v.isNull).map (inner key) := by
  induction ms with
  | nil => rfl
  | cons e ms ih =>
    obtain ⟨k, v⟩ := e
    obtain ⟨hfresh, hrest⟩ := Assoc.distinct_cons.mp h
    rw [trimmedMembers_cons]
    by_cases hk : k = key
    · subst hk
      have hgone : Assoc.find? k (trimmedMembers inner ms) = none := by
        rw [ih hrest, Assoc.find?_eq_none_iff.mpr hfresh]
        rfl
      cases hnull : v.isNull <;> simp [Assoc.find?, hnull, hgone, Option.filter]
    · cases hnull : v.isNull <;> simp [Assoc.find?, hk, ih hrest]

theorem distinct_trimmedMembers {inner : String → Json → Json} {ms : List (String × Json)}
    (h : Assoc.Distinct ms) : Assoc.Distinct (trimmedMembers inner ms) := by
  have hkeys : Assoc.keys (trimmedMembers inner ms) =
      Assoc.keys (ms.filter fun e => !e.2.isNull) := by
    simp [trimmedMembers, Assoc.keys]
  rw [Assoc.Distinct, hkeys]
  exact h.sublist (List.filter_sublist.map Prod.fst)

end Json

/-! ## One field -/

/-- Laying a value over a default and reading it is reading the value without some nulls. -/
structure Fills {α : Type} (read : Draft → Option α) (fallback : α) (default : Json)
    (trim : Json → Json) : Prop where
  read_default : read (ofJson default) = some fallback
  read_overlay : ∀ v : Json, v.Canonical →
    read (ofJson (default.overlay v)) = read (ofJson (trim v))

section Field
variable {α : Type} {read : Draft → Option α} {fallback : α} {default : Json}
  {trim : Json → Json} {inner : String → Json → Json} {ts ms : List (String × Json)}
  {name : String}

/-- A value that is no object gives way to any other. -/
theorem fills_of_flat (hread : read (ofJson default) = some fallback)
    (hflat : default.isObject = false) : Fills read fallback default id :=
  ⟨hread, fun v _ => by rw [overlay_of_flat hflat, id]⟩

theorem Fills.fieldOr_overlay (h : Fills read fallback default trim)
    (inner : String → Json → Json)
    (hdefault : Assoc.find? name ts = some default) (hinner : inner name = trim)
    (hms : (Json.obj ms).Canonical) :
    fieldOr fallback read ((Assoc.find? name (overlayMembers ts ms)).map ofJson) =
      fieldOr fallback read ((Assoc.find? name (trimmedMembers inner ms)).map ofJson) := by
  have hdistinct := Assoc.distinct_of_ascending hms.1
  rw [find?_overlayMembers hdistinct, find?_trimmedMembers hdistinct, hdefault, hinner]
  cases hfound : Assoc.find? name ms with
  | none => exact h.read_default
  | some v =>
    cases hnull : v.isNull with
    | true => simpa [overlaid?, hnull, fieldOr, Option.filter] using h.read_default
    | false =>
      have hv : v.Canonical := canonical_of_find? hms.2 hfound
      simpa [overlaid?, hnull, fieldOr, Option.filter] using h.read_overlay v hv

/-- A member without a default is there just if it is not null. -/
theorem find?_overlay_absent (habsent : Assoc.find? name ts = none) (hinner : inner name = id)
    (hms : (Json.obj ms).Canonical) :
    Assoc.find? name (overlayMembers ts ms) = Assoc.find? name (trimmedMembers inner ms) := by
  have hdistinct := Assoc.distinct_of_ascending hms.1
  rw [find?_overlayMembers hdistinct, find?_trimmedMembers hdistinct, habsent, hinner]
  cases Assoc.find? name ms with
  | none => rfl
  | some v => cases hnull : v.isNull <;> simp [overlaid?, hnull, Option.filter]

end Field

/-! ## Records -/

section Record
variable {doc : Json} {inner : String → Json → Json} {ms : List (String × Json)}

theorem fields?_overlay (hobj : doc.isObject = true) (ms : List (String × Json))
    (names : List String) :
    (ofJson (doc.sorted.overlay (.obj ms))).fields? names =
      some (names.map fun name =>
        (Assoc.find? name (overlayMembers doc.sorted.members ms)).map ofJson) := by
  have hascending := ascending_overlayMembers (ascending_sorted doc) ms
  rw [sorted_of_isObject hobj, overlay_obj,
    fields?_of_distinct (Assoc.distinct_of_ascending hascending)]
  rfl

theorem fields?_trimmed (hms : (Json.obj ms).Canonical) (names : List String) :
    (ofJson ((Json.obj ms).trimmed inner)).fields? names =
      some (names.map fun name => (Assoc.find? name (trimmedMembers inner ms)).map ofJson) :=
  fields?_of_distinct (distinct_trimmedMembers (Assoc.distinct_of_ascending hms.1)) names

end Record

theorem fills_word (n : UInt64) : Fills uint64? n (wordJson n) id :=
  fills_of_flat (uint64?_wordJson n) rfl

theorem fills_nat (n : UInt32) : Fills uint32? n (Json.nat n.toNat) id :=
  fills_of_flat (uint32?_nat n) rfl

theorem fills_text (s : String) : Fills string? s (.str s) id :=
  fills_of_flat (string?_str s) rfl

theorem fills_flag (b : Bool) : Fills bool? b (.bool b) id :=
  fills_of_flat (bool?_bool b) rfl

theorem fills_policy (p : GiveUpPolicy) : Fills GiveUpSettings.policy? p (.str p.name) id :=
  fills_of_flat (GiveUpSettings.policy?_name p) rfl

theorem fills_version (v : Version) : Fills Settings.version? v (.str v.name) id :=
  fills_of_flat (Settings.version?_name v) rfl

theorem PollingSettings.fills :
    Fills ofDraft? {} ({} : PollingSettings).document.sorted Json.withoutNulls where
  read_default := ofDraft?_document {}
  read_overlay v hv := by
    cases v with
    | obj ms =>
      have hdefault := find?_sorted (distinct_document {})
      have hretry :=
        (fills_word _).fieldOr_overlay (fun _ w => w) (hdefault "retryDelayMs") rfl hv
      rw [ofDraft?, ofDraft?, fields?_overlay rfl, Json.withoutNulls, fields?_trimmed hv]
      simp only [List.map_cons, List.map_nil, Option.bind_eq_bind, Option.bind_some, hretry]
    | _ => rfl

theorem GiveUpSettings.fills :
    Fills ofDraft? {} ({} : GiveUpSettings).document.sorted Json.withoutNulls where
  read_default := ofDraft?_document {}
  read_overlay v hv := by
    cases v with
    | obj ms =>
      have hdefault := find?_sorted (distinct_document {})
      have hpolicy := (fills_policy _).fieldOr_overlay (fun _ w => w) (hdefault "policy") rfl hv
      have hafter :=
        (fills_nat _).fieldOr_overlay (fun _ w => w) (hdefault "afterAttempts") rfl hv
      rw [ofDraft?, ofDraft?, fields?_overlay rfl, Json.withoutNulls, fields?_trimmed hv]
      simp only [List.map_cons, List.map_nil, Option.bind_eq_bind, Option.bind_some, hpolicy,
        hafter]
    | _ => rfl

theorem SocketSettings.fills :
    Fills ofDraft? {} ({} : SocketSettings).document.sorted withoutNulls where
  read_default := ofDraft?_document {}
  read_overlay v hv := by
    cases v with
    | obj ms =>
      have hdefault := find?_sorted (distinct_document {})
      have hping := (fills_word _).fieldOr_overlay trimMember (hdefault "pingIntervalMs") rfl hv
      have hhealthy :=
        (fills_word _).fieldOr_overlay trimMember (hdefault "healthyPingIntervalMs") rfl hv
      have hpong := (fills_word _).fieldOr_overlay trimMember (hdefault "pongTimeoutMs") rfl hv
      have hconnect :=
        (fills_word _).fieldOr_overlay trimMember (hdefault "connectTimeoutMs") rfl hv
      have hunit := (fills_word _).fieldOr_overlay trimMember (hdefault "reconnectUnitMs") rfl hv
      have hcap := (fills_nat _).fieldOr_overlay trimMember (hdefault "reconnectCap") rfl hv
      have hgiveUp := GiveUpSettings.fills.fieldOr_overlay trimMember (hdefault "giveUp") rfl hv
      rw [ofDraft?, ofDraft?, fields?_overlay rfl, withoutNulls, fields?_trimmed hv]
      simp only [List.map_cons, List.map_nil, Option.bind_eq_bind, Option.bind_some, hping,
        hhealthy, hpong, hconnect, hunit, hcap, hgiveUp]
    | _ => rfl

theorem Settings.fills : Fills ofDraft? {} ({} : Settings).toJson withoutNulls where
  read_default := ofJson?_toJson {}
  read_overlay v hv := by
    cases v with
    | obj ms =>
      have hdefault := find?_sorted (distinct_document {})
      have hsocketUrl := (fills_text _).fieldOr_overlay trimMember (hdefault "socketUrl") rfl hv
      have hpollingUrl := (fills_text _).fieldOr_overlay trimMember (hdefault "pollingUrl") rfl hv
      -- the one option that is not written where it has its default
      have hdiagnostics :=
        find?_overlay_absent (hdefault "diagnosticsUrl") (rfl : trimMember "diagnosticsUrl" = id) hv
      have hprotocol := (fills_version _).fieldOr_overlay trimMember (hdefault "protocol") rfl hv
      have hforce := (fills_flag _).fieldOr_overlay trimMember (hdefault "forcePolling") rfl hv
      have htrack := (fills_flag _).fieldOr_overlay trimMember (hdefault "trackChanges") rfl hv
      have htimeout :=
        (fills_word _).fieldOr_overlay trimMember (hdefault "requestTimeoutMs") rfl hv
      have hlog := (fills_flag _).fieldOr_overlay trimMember (hdefault "logTransportChanges") rfl hv
      have hlevel := (fills_text _).fieldOr_overlay trimMember (hdefault "logLevel") rfl hv
      have hsocket := SocketSettings.fills.fieldOr_overlay trimMember (hdefault "socket") rfl hv
      have hpolling := PollingSettings.fills.fieldOr_overlay trimMember (hdefault "polling") rfl hv
      rw [ofDraft?, ofDraft?, toJson, fields?_overlay rfl, withoutNulls, fields?_trimmed hv]
      simp only [List.map_cons, List.map_nil, Option.bind_eq_bind, Option.bind_some, hsocketUrl,
        hpollingUrl, hdiagnostics, hprotocol, hforce, htrack, htimeout, hlog, hlevel, hsocket,
        hpolling]
    | _ => rfl

namespace Settings

/-- A document laid over the saved defaults is accepted just if it is by itself, once its null
members are dropped from the settings and from the records in them, and is then read as the same
settings. Any other null counts on both ways, as does anything else that is no option. -/
theorem ofJson?_overlay_defaults {v : Json} (h : v.Canonical) :
    ofJson? (({} : Settings).toJson.overlay v) = ofJson? (withoutNulls v) :=
  fills.read_overlay v h

/-- Nulls that leave a default alone at every level, and one that spoils a record. -/
theorem ofJson?_overlay_defaults_nulls :
    let sparse : Json := .obj [("polling", .null), ("protocol", .str "v1"),
      ("socket", .obj [("giveUp", .obj [("afterAttempts", .null), ("policy", .str "stop")]),
        ("reconnectCap", .null)]), ("theme", .obj [("dark", .null)])]
    let spoilt : Json := .obj [("polling", .arr [.null])]
    sparse.Canonical ∧ spoilt.Canonical ∧
      ofJson? (({} : Settings).toJson.overlay sparse) =
        some { protocol := .v1, socket := { giveUp := { policy := .stop } } } ∧
      ofJson? (({} : Settings).toJson.overlay spoilt) = none := by
  intro sparse spoilt
  have hsparse : sparse.Canonical := by
    simp only [sparse, Canonical, CanonicalMembers, and_true, true_and]
    decide
  have hspoilt : spoilt.Canonical := by
    simp only [spoilt, Canonical, CanonicalMembers, CanonicalItems, and_true]
    decide
  exact ⟨hsparse, hspoilt, (ofJson?_overlay_defaults hsparse).trans rfl,
    (ofJson?_overlay_defaults hspoilt).trans rfl⟩

/-- A file is read as its value is, with the defaults filled in. -/
theorem ofFile_text {content : String} {v : Json} (h : Json.parse? content = some v) :
    ofFile (.text content) = (ofJson? (withoutNulls v)).elim (.error .wrongShape) .ok := by
  obtain ⟨d, hparse, hjson⟩ := Option.bind_eq_some_iff.mp h
  have hv : v.Canonical := (canonical_json? hjson (ranged_parse? hparse)).1
  have hread : ofJson? (({} : Settings).toJson.overlay v) = ofJson? (withoutNulls v) :=
    fills.read_overlay v hv
  simp only [ofFile, h, hread]
  cases ofJson? (withoutNulls v) <;> rfl

end Settings

end TopicClient
