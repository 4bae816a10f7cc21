import TopicClient.Proofs.FilledDefaults
import TopicClient.Proofs.OverriddenOptions

/-!
# Settings saved in a file

Saved settings hold no null, so nothing in them gives way to a default, and their text reads back
as their value. A file that they were saved in is therefore loaded as the same settings, unless a
variable overrides some of them or they are unfit to run with.
-/

namespace TopicClient

open Json Json.Draft

namespace Json

/-! ## Nothing to drop -/

@[simp] theorem isNull_str (s : String) : (Json.str s).isNull = false := rfl

@[simp] theorem isNull_bool (b : Bool) : (Json.bool b).isNull = false := rfl

@[simp] theorem isNull_nat (n : Nat) : (Json.nat n).isNull = false := rfl

theorem isNull_sorted (v : Json) : v.sorted.isNull = v.isNull := by
  cases v <;> rfl

theorem mem_sortedMembers {ms : List (String × Json)} {e : String × Json}
    (h : e ∈ sortedMembers ms) : ∃ v, (e.1, v) ∈ ms ∧ e.2 = v.sorted := by
  induction ms with
  | nil => cases h
  | cons m ms ih =>
    obtain ⟨k, v⟩ := m
    rcases List.mem_cons.mp h with rfl | h
    · exact ⟨v, List.mem_cons_self, rfl⟩
    · obtain ⟨w, hw, heq⟩ := ih h
      exact ⟨w, List.mem_cons_of_mem _ hw, heq⟩

/-- A document without nulls, whose members have nothing to drop either. -/
theorem trimmed_sorted {inner : String → Json → Json} {v : Json}
    (h : ∀ e ∈ v.members, e.2.isNull = false ∧ inner e.1 e.2.sorted = e.2.sorted) :
    v.sorted.trimmed inner = v.sorted := by
  cases v with
  | obj ms =>
    have hkept : ∀ e ∈ Assoc.ofListSorted (sortedMembers ms),
        e.2.isNull = false ∧ inner e.1 e.2 = e.2 := by
      intro e he
      obtain ⟨w, hw, hsorted⟩ := mem_sortedMembers (Assoc.mem_of_mem_ofListSorted he)
      rw [hsorted, isNull_sorted]
      exact h _ hw
    have hmembers : trimmedMembers inner (Assoc.ofListSorted (sortedMembers ms)) =
        Assoc.ofListSorted (sortedMembers ms) := by
      have hall : ∀ e ∈ Assoc.ofListSorted (sortedMembers ms), (!e.2.isNull) = true := by
        intro e he
        rw [(hkept e he).1, Bool.not_false]
      rw [trimmedMembers, List.filter_eq_self.mpr hall, List.map_congr_left fun e he => ?_]
      · exact List.map_id _
      · exact Prod.ext rfl (hkept e he).2
    exact congrArg Json.obj hmembers
  | _ => rfl

end Json

theorem PollingSettings.withoutNulls_document (s : PollingSettings) :
    s.document.sorted.withoutNulls = s.document.sorted :=
  trimmed_sorted (by simp [document, members, wordJson])

theorem GiveUpSettings.withoutNulls_document (s : GiveUpSettings) :
    s.document.sorted.withoutNulls = s.document.sorted :=
  trimmed_sorted (by simp [document, members])

theorem SocketSettings.withoutNulls_document (s : SocketSettings) :
    withoutNulls s.document.sorted = s.document.sorted := by
  have hgiveUp := s.giveUp.withoutNulls_document
  have hobject : s.giveUp.document.isNull = false := rfl
  exact trimmed_sorted (by simp [document, members, wordJson, trimMember, hgiveUp, hobject])

/-- Settings are saved without nulls, in the records too. -/
theorem Settings.withoutNulls_toJson (s : Settings) : withoutNulls s.toJson = s.toJson := by
  have hsocket := s.socket.withoutNulls_document
  have hpolling := s.polling.withoutNulls_document
  have hobjects : s.socket.document.isNull = false ∧ s.polling.document.isNull = false :=
    ⟨rfl, rfl⟩
  refine trimmed_sorted ?_
  cases hurl : s.diagnosticsUrl <;>
    simp [document, members, hurl, Wire.field, wordJson, trimMember, hsocket, hpolling, hobjects]

/-! ## The text of saved settings -/

theorem nat_legible (n : UInt32) : (Json.nat n.toNat).EveryNumber Number.Legible := by
  have := n.toNat_lt
  exact int_legible ⟨by omega, by omega⟩

theorem wordJson_legible (n : UInt64) : (wordJson n).EveryNumber Number.Legible :=
  Wire.idJson_legible n

theorem PollingSettings.document_legible (s : PollingSettings) :
    s.document.EveryNumber Number.Legible :=
  ⟨wordJson_legible _, trivial⟩

theorem GiveUpSettings.document_legible (s : GiveUpSettings) :
    s.document.EveryNumber Number.Legible :=
  ⟨trivial, nat_legible _, trivial⟩

theorem SocketSettings.document_legible (s : SocketSettings) :
    s.document.EveryNumber Number.Legible :=
  ⟨wordJson_legible _, wordJson_legible _, wordJson_legible _, wordJson_legible _,
    wordJson_legible _, nat_legible _, s.giveUp.document_legible, trivial⟩

namespace Settings

theorem document_legible (s : Settings) : s.document.EveryNumber Number.Legible := by
  simp only [document, EveryNumber, Wire.everyNumberMembers_append]
  refine ⟨⟨⟨trivial, trivial, trivial⟩, ?_⟩, ?_⟩
  · exact Wire.everyNumberMembers_field Wire.text_legible _ _
  · exact ⟨trivial, trivial, trivial, wordJson_legible _, trivial, trivial,
      s.socket.document_legible, s.polling.document_legible, trivial⟩

theorem depth_document (s : Settings) : s.document.depth = 3 := by
  cases hurl : s.diagnosticsUrl <;> simp [document, hurl, Wire.field] <;> rfl

/-- The text of settings says their value. -/
theorem parse?_text (s : Settings) : Json.parse? s.text = some s.toJson := by
  have hchars : s.text.toList = s.document.chars := String.toList_ofList
  have hfits : s.document.depth ≤ nestingLimit := by
    rw [depth_document]
    decide
  rw [Json.parse?, parseChars?, hchars, parse?_chars s.document_legible]
  exact json?_ofJson_sorted s.document hfits

/-! ## Loading them -/

/-- Whatever text says the value of the settings. -/
theorem ofFile_of_parse? {content : String} {s : Settings}
    (h : Json.parse? content = some s.toJson) : ofFile (.text content) = .ok s := by
  rw [ofFile_text h, withoutNulls_toJson, ofJson?_toJson]
  rfl

theorem load_of_unset {env : Environment} (unset : ∀ o ∈ overrides, o.name ∉ Assoc.keys env)
    {file : File} {s : Settings} (h : ofFile file = .ok s) :
    load env file = ⟨s.checked, [fileNotice file]⟩ := by
  rw [load, h]
  simp only [override_of_unset unset, overrideNotices_of_unset unset]

theorem checked_eq (s : Settings) :
    s.checked = s.fault?.elim (.ok s) fun fault => .error (.invalid fault) := by
  rw [checked]
  cases s.fault? <;> rfl

/-- Where no variable overrides an option, settings that were saved are loaded again as they are,
or are rejected for their own fault. Nothing is reported but the loading of the file. -/
theorem load_saved {env : Environment} (unset : ∀ o ∈ overrides, o.name ∉ Assoc.keys env)
    (s : Settings) :
    load env (.text s.text) =
      ⟨s.fault?.elim (.ok s) fun fault => .error (.invalid fault), [.settingsLoading]⟩ := by
  rw [load_of_unset unset (ofFile_of_parse? s.parse?_text), checked_eq]
  rfl

/-- Settings with every option at an edge, fit and unfit, beside variables that override none. -/
theorem load_saved_edges :
    let env : Environment := [("AMP_SETTINGS", "/srv/a.json"), ("HOME", "/home/a")]
    let fit : Settings :=
      { socketUrl := "", diagnosticsUrl := some "", protocol := .v1, forcePolling := true,
        requestTimeoutMs := 0xFFFFFFFFFFFFFFFF, logLevel := "\"\n",
        socket := { reconnectCap := 31, giveUp := ⟨.notify, 0xFFFFFFFF⟩ }, polling := ⟨0⟩ }
    (∀ o ∈ overrides, o.name ∉ Assoc.keys env) ∧
      load env (.text fit.text) = ⟨.ok fit, [.settingsLoading]⟩ ∧
      load env (.text { fit with socket.reconnectCap := 32 }.text) =
        ⟨.error (.invalid .capTooGreat), [.settingsLoading]⟩ := by
  intro env fit
  have unset : ∀ o ∈ overrides, o.name ∉ Assoc.keys env := by
    simp [overrides, Override.plain, env, Assoc.keys]
  exact ⟨unset, (load_saved unset fit).trans rfl, (load_saved unset _).trans rfl⟩

end Settings

end TopicClient
