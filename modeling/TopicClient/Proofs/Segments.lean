import Mathlib.Data.List.Infix
import TopicClient.Proofs.Batches

/-!
# Segments on their own

What stands between two separators is read as if it stood alone. A segment with a bad
header costs itself and one notice, and a bad body costs the body: neither reaches the
segments before and after it.
-/

namespace TopicClient

/-- Only a dropped segment is told of in these words. -/
theorem Notice.text_eq_dropping_iff (n : Notice) :
    n.text = "dropping segment with invalid header" ↔ n = .invalidHeader := by
  cases n <;> simp [Notice.text]

namespace Wire

open Json

/-- Texts that come apart where they were joined. A line feed at the end of a text that
is followed by another would be taken for the first half of the separator. -/
structure Separable (texts : List String) : Prop where
  nonempty : texts ≠ []
  unseparated : ∀ t ∈ texts, ¬ separatorChars <:+: t.toList
  apart : ∀ t ∈ texts.dropLast, t.toList.getLast? ≠ some '\n'

theorem segments_join {texts : List String} (h : Separable texts) :
    segments (separator.intercalate texts).toList = texts.map String.toList := by
  rw [String.toList_intercalate, separator, String.toList_ofList]
  refine segments_intercalate (by simpa using h.nonempty) ?_ ?_
  · intro p hp
    obtain ⟨t, ht, rfl⟩ := List.mem_map.mp hp
    exact h.unseparated t ht
  · intro p hp
    rw [← List.map_dropLast] at hp
    obtain ⟨t, ht, rfl⟩ := List.mem_map.mp hp
    exact h.apart t ht

/-! ## Headers and bodies -/

theorem V1.body_ofHeader? {d : Draft} {m : Message} (h : V1.ofHeader? d = some m) :
    m.body = none := by
  simp only [V1.ofHeader?, Option.bind_eq_bind, Option.bind_eq_some_iff] at h
  obtain ⟨fields, -, h⟩ := h
  split at h
  · simp only [Option.bind_eq_some_iff, Option.some.injEq] at h
    obtain ⟨_, -, _, -, _, -, _, -, _, -, rfl⟩ := h
    rfl
  · cases h

theorem V2.body_ofHeader? {d : Draft} {m : Message} (h : V2.ofHeader? d = some m) :
    m.body = none := by
  simp only [V2.ofHeader?, Option.bind_eq_bind, Option.bind_eq_some_iff] at h
  obtain ⟨fields, -, h⟩ := h
  split at h
  · simp only [Option.bind_eq_some_iff, Option.some.injEq] at h
    obtain ⟨_, -, _, -, _, -, _, -, _, -, _, -, _, -, _, -, rfl⟩ := h
    rfl
  · cases h

/-- The message of a header has no body. -/
theorem body_ofHeader? {v : Version} {d : Draft} {m : Message} (h : ofHeader? v d = some m) :
    m.body = none := by
  cases v with
  | v1 => exact V1.body_ofHeader? h
  | v2 => exact V2.body_ofHeader? h

theorem parseChars?_nil : parseChars? [] = none := by decide

/-- The body is what the text denotes, or absent. -/
theorem result_withBody {m : Message} (absent : m.body = none) (body : List Char) :
    (withBody m body).result = { m with body := parseChars? body } := by
  have hsame : m = { m with body := none } := by rw [← absent]
  rw [withBody]
  by_cases hempty : body.isEmpty = true
  · obtain rfl := List.isEmpty_iff.mp hempty
    rw [if_pos hempty, parseChars?_nil]
    exact hsame
  · rw [if_neg hempty]
    cases parseChars? body with
    | none => exact hsame
    | some v => rfl

theorem not_mem_notices_withBody (m : Message) (body : List Char) :
    .invalidHeader ∉ (withBody m body).notices := by
  rw [withBody]
  split
  · exact List.not_mem_nil
  · split
    · exact List.not_mem_nil
    · simp

theorem withUpdate_withBody (m : Message) (body : Option Json) :
    { m with body }.withUpdate = { m.withUpdate with body } := by
  by_cases silent : m.kind = .publish ∧ m.update = none
  · simp only [Message.withUpdate, if_pos silent]
  · simp only [Message.withUpdate, if_neg silent]

/-- A segment is dropped with a notice, or it is the message of its header line with the
body that the rest of it denotes. -/
theorem unpackSegment_cases (v : Version) (segment : List Char) :
    ((Draft.parse? (cutLine segment).1).bind (ofHeader? v) = none ∧
        unpackSegment v segment = ⟨none, [.invalidHeader]⟩) ∨
      ∃ m, (Draft.parse? (cutLine segment).1).bind (ofHeader? v) = some m ∧
        (unpackSegment v segment).result =
          some { m.withUpdate with body := parseChars? (cutLine segment).2 } ∧
        .invalidHeader ∉ (unpackSegment v segment).notices := by
  simp only [unpackSegment]
  cases hread : (Draft.parse? (cutLine segment).1).bind (ofHeader? v) with
  | none => exact .inl ⟨rfl, rfl⟩
  | some m =>
    obtain ⟨d, -, hheader⟩ := Option.bind_eq_some_iff.mp hread
    have hbody := result_withBody (body_ofHeader? hheader) (cutLine segment).2
    refine .inr ⟨m, rfl, ?_, not_mem_notices_withBody m _⟩
    simp only [hbody, withUpdate_withBody]

/-- What follows the header line decides nothing but the body. -/
theorem result_unpackSegment_line (v : Version) {line : List Char} (oneLine : '\n' ∉ line)
    (body : List Char) :
    (unpackSegment v (line ++ '\n' :: body)).result =
      (unpackSegment v line).result.map fun m => { m with body := parseChars? body } := by
  have hlong := unpackSegment_cases v (line ++ '\n' :: body)
  have hshort := unpackSegment_cases v line
  rw [cutLine_append oneLine] at hlong
  rw [cutLine_of_not_mem oneLine] at hshort
  rcases hlong with ⟨hnone, hlong⟩ | ⟨m, hsome, hlong, -⟩
  · rcases hshort with ⟨-, hshort⟩ | ⟨m, hsome, -⟩
    · rw [hlong, hshort]
      rfl
    · exact absurd (hnone.symm.trans hsome) nofun
  · rcases hshort with ⟨hnone, -⟩ | ⟨n, hsame, hshort, -⟩
    · exact absurd (hnone.symm.trans hsome) nofun
    · obtain rfl := Option.some.inj (hsome.symm.trans hsame)
      rw [hlong, hshort]
      rfl

/-! ## Payloads -/

/-- The empty payload has one segment, which is dropped. -/
theorem result_unpackChars (v : Version) (p : List Char) :
    (unpackChars v p).result = (segments p).filterMap fun s => (unpackSegment v s).result := by
  rw [unpackChars]
  by_cases hempty : p.isEmpty = true
  · obtain rfl := List.isEmpty_iff.mp hempty
    rw [if_pos hempty]
    cases v <;> decide
  · rw [if_neg hempty]
    exact List.filterMap_map

/-- A payload is read segment by segment. The empty payload has no segments. -/
theorem unpack_join (v : Version) {texts : List String} (h : Separable texts) :
    (unpack v (separator.intercalate texts)).result =
        texts.filterMap (fun t => (unpackOne v t).result) ∧
      (separator.intercalate texts ≠ "" →
        (unpack v (separator.intercalate texts)).notices =
          texts.flatMap fun t => (unpackOne v t).notices) := by
  constructor
  · rw [unpack, result_unpackChars, segments_join h]
    exact List.filterMap_map
  · intro hne
    have hempty : ¬ (separator.intercalate texts).toList.isEmpty = true := fun hempty =>
      hne (String.toList_eq_nil_iff.mp (List.isEmpty_iff.mp hempty))
    rw [unpack, unpackChars, if_neg hempty, segments_join h, List.map_map]
    exact List.flatMap_map _ _ _

/-- What is wrong with a part of a payload stays with that part. Texts that are joined by
the separator are read as they are on their own, in messages and in notices; each is one
message or one notice that it was dropped. And whatever follows a header line decides
nothing but the body: it is the body if it is a document, and otherwise there is none. -/
theorem parts_read_apart (v : Version) {texts : List String} (h : Separable texts) :
    (unpack v (separator.intercalate texts)).result =
        texts.filterMap (fun t => (unpackOne v t).result) ∧
      (separator.intercalate texts ≠ "" →
        (unpack v (separator.intercalate texts)).notices =
            texts.flatMap (fun t => (unpackOne v t).notices) ∧
          ∀ t ∈ texts, let told := (unpackOne v t).notices.map Notice.text
            ((∃ m, (unpackOne v t).result = some m) ∧
                "dropping segment with invalid header" ∉ told) ∨
              ((unpackOne v t).result = none ∧
                told = ["dropping segment with invalid header"])) ∧
      ∀ header body : String, '\n' ∉ header.toList →
        (unpackOne v (header ++ "\n" ++ body)).result =
          (unpackOne v header).result.map fun m => { m with body := Json.parse? body } := by
  obtain ⟨hresult, hnotices⟩ := unpack_join v h
  refine ⟨hresult, fun hne => ⟨hnotices hne, ?_⟩, ?_⟩
  · intro t _
    rcases unpackSegment_cases v t.toList with ⟨-, hdropped⟩ | ⟨m, -, hresult, hclean⟩
    · right
      rw [unpackOne, hdropped]
      exact ⟨rfl, rfl⟩
    · left
      refine ⟨⟨_, hresult⟩, ?_⟩
      intro htold
      obtain ⟨notice, hmem, htext⟩ := List.mem_map.mp htold
      obtain rfl := notice.text_eq_dropping_iff.mp htext
      exact hclean hmem
  · intro header body oneLine
    have htext : (header ++ "\n" ++ body).toList = header.toList ++ '\n' :: body.toList := by
      simp
    rw [unpackOne, htext]
    exact result_unpackSegment_line v oneLine body.toList

/-- Bad parts of every kind between two good messages. -/
theorem parts_read_apart_around :
    let texts :=
      ["\x7b\"t\":5\x7d", "\nx", "nonsense\n1", "\x7b\"u\":\"a\"\x7d\n\x7b", "\x7b\"t\":4\x7d\n7\n"]
    let payload := separator.intercalate texts
    Separable texts ∧ payload ≠ "" ∧
      (unpack .v2 payload).result = texts.filterMap (fun t => (unpackOne .v2 t).result) ∧
      (unpack .v2 payload).notices = [.invalidHeader, .invalidHeader, .invalidBody] ∧
      "nonsense\n1" ∈ texts ∧
      (unpackOne .v2 "nonsense\n1").notices.map Notice.text =
        ["dropping segment with invalid header"] ∧
      '\n' ∉ "\x7b\"t\":4\x7d".toList ∧
      (unpackOne .v2 ("\x7b\"t\":4\x7d" ++ "\n" ++ "7\n")).result =
        (unpackOne .v2 "\x7b\"t\":4\x7d").result.map
          fun m => { m with body := Json.parse? "7\n" } := by
  intro texts payload
  have hseparable : Separable texts := ⟨by decide, by decide, by decide⟩
  have hne : payload ≠ "" := by decide
  have hmem : "nonsense\n1" ∈ texts := by decide
  have oneLine : '\n' ∉ "\x7b\"t\":4\x7d".toList := by decide
  obtain ⟨hresult, hnotices, hbody⟩ := parts_read_apart .v2 hseparable
  refine ⟨hseparable, hne, hresult, ?_, hmem, ?_, oneLine, hbody _ _ oneLine⟩
  · rw [(hnotices hne).1]
    decide +kernel
  · have hnone : (unpackOne .v2 "nonsense\n1").result.isSome = false := by decide +kernel
    rcases (hnotices hne).2 _ hmem with ⟨⟨m, hsome⟩, -⟩ | ⟨-, hdropped⟩
    · simp [hsome] at hnone
    · exact hdropped

end Wire

end TopicClient
