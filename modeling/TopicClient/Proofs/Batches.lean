import TopicClient.Proofs.HeaderText
import TopicClient.Wire.Payload

/-!
# Batches

Messages are packed into one text and come back from it. Separators are found
where they were put, since a header is one line and a body is another, whatever
line feeds their strings hold. What comes back is the message in normal form.
-/

namespace TopicClient

/-- What is left of a message that was sent: kinds are known by their codes, a
publish without an update is a diff, and a null body is no body. -/
def Message.normal (m : Message) : Message :=
  let kind := MessageKind.ofCode m.kind.code
  let update := m.update.map fun u => UpdateKind.ofCode u.code
  { m with
    kind
    update := if kind = .publish ∧ update = none then some .diff else update
    body := m.body.filter (!·.isNull) }

/-- What version 1 knows of a message that was sent. Of updates it can only tell the full
ones, and it has no cursor without a topic. -/
def Message.legacy (m : Message) : Message :=
  let kind := MessageKind.ofCode m.kind.code
  { kind
    uri := m.uri
    ts := m.ts
    update :=
      if m.update = some .full then some .full
      else if kind = .publish then some .diff else none
    subscriptions := m.subscriptions.map fun c => ⟨c.entries.filter fun e => e.1 != ""⟩
    body := m.body.filter (!·.isNull) }

/-- What is left of a message that was sent in a version. -/
def Message.kept (v : Version) (m : Message) : Message :=
  match v with
  | .v1 => m.legacy
  | .v2 => m.normal

namespace Wire

open Json

/-! ## Segments -/

theorem segments_separator (rest : List Char) :
    segments ('\n' :: '\n' :: rest) = [] :: segments rest := rfl

theorem segments_ne_nil (cs : List Char) : segments cs ≠ [] := by
  fun_cases segments cs <;> simp_all

theorem segments_cons {c : Char} {cs s : List Char} {ss : List (List Char)}
    (single : ¬ (c = '\n' ∧ cs.head? = some '\n')) (h : segments cs = s :: ss) :
    segments (c :: cs) = (c :: s) :: ss := by
  rw [segments]
  · rw [h]
  · rintro rest rfl heq
    exact single ⟨rfl, by simp [heq]⟩

/-- A text without a separator is one segment. -/
theorem segments_unseparated {p : List Char} (unseparated : ¬ separatorChars <:+: p) :
    segments p = [p] := by
  induction p with
  | nil => rfl
  | cons c p ih =>
    refine segments_cons ?_ (ih fun inside => ?_)
    · rintro ⟨rfl, hhead⟩
      cases p with
      | nil => cases hhead
      | cons d p =>
        obtain rfl : d = '\n' := by simpa using hhead
        exact unseparated ⟨[], p, rfl⟩
    · exact unseparated (inside.trans (List.suffix_cons c p).isInfix)

/-- A separator separates whatever stands before it, unless that ends in a line feed, which
would be taken for the first half of the separator. -/
theorem segments_separated {a : List Char} (apart : a.getLast? ≠ some '\n') (b : List Char) :
    segments (a ++ '\n' :: '\n' :: b) = segments a ++ segments b := by
  fun_induction segments a with
  | case1 => exact segments_separator b
  | case2 cs ih =>
    have hcs : cs.getLast? ≠ some '\n' := by
      intro hlast
      cases cs with
      | nil => cases hlast
      | cons d cs => exact apart (by simpa [List.getLast?_cons_cons] using hlast)
    rw [List.cons_append, List.cons_append, segments_separator, ih hcs, List.cons_append]
  | case3 c cs single hnil ih => exact absurd hnil (segments_ne_nil cs)
  | case4 c cs single s rest hcs ih =>
    cases cs with
    | nil =>
      obtain ⟨rfl, rfl⟩ := List.cons.inj hcs
      refine segments_cons ?_ (segments_separator b)
      rintro ⟨rfl, -⟩
      exact apart rfl
    | cons d cs =>
      have hlast : (d :: cs).getLast? ≠ some '\n' := by
        simpa [List.getLast?_cons_cons] using apart
      have hrest := ih hlast
      rw [hcs, List.cons_append] at hrest
      refine segments_cons ?_ hrest
      rintro ⟨hc, hhead⟩
      obtain rfl : d = '\n' := by simpa using hhead
      exact single cs hc rfl

/-- Texts without a separator come back from their join, unless one that is followed
by another ends in a line feed. -/
theorem segments_intercalate {parts : List (List Char)} (nonempty : parts ≠ [])
    (unseparated : ∀ p ∈ parts, ¬ separatorChars <:+: p)
    (apart : ∀ p ∈ parts.dropLast, p.getLast? ≠ some '\n') :
    segments (separatorChars.intercalate parts) = parts := by
  induction parts with
  | nil => exact absurd rfl nonempty
  | cons p parts ih =>
    have hp : segments p = [p] := segments_unseparated (unseparated p (by simp))
    cases parts with
    | nil => simpa using hp
    | cons q parts =>
      have hrest := ih (by simp) (fun r hr => unseparated r (by simp [hr]))
        (fun r hr => apart r (by simp [List.dropLast_cons_of_ne_nil, hr]))
      have hjoin := segments_separated (apart p (by simp)) (separatorChars.intercalate (q :: parts))
      rw [hp, hrest] at hjoin
      simpa [separatorChars] using hjoin

/-! ## Lines -/

theorem cutLine_of_not_mem {line : List Char} (h : '\n' ∉ line) : cutLine line = (line, []) := by
  induction line with
  | nil => rfl
  | cons c cs ih =>
    simp only [List.mem_cons, not_or] at h
    simp [cutLine, Ne.symm h.1, ih h.2]

theorem cutLine_append {line : List Char} (h : '\n' ∉ line) (body : List Char) :
    cutLine (line ++ '\n' :: body) = (line, body) := by
  induction line with
  | nil => rfl
  | cons c cs ih =>
    simp only [List.mem_cons, not_or] at h
    simp [cutLine, Ne.symm h.1, ih h.2]

/-! ## Messages -/

/-- A packed message is its header line, and a second line if it has a body. -/
theorem packChars_cases (v : Version) (m : Message) :
    (m.body.filter (!·.isNull) = none ∧ packChars v m = (header v m).chars) ∨
      ∃ w, m.body.filter (!·.isNull) = some w ∧ w ∈ m.body ∧
        packChars v m = (header v m).chars ++ '\n' :: w.chars := by
  match hm : m.body with
  | none => exact Or.inl ⟨rfl, by simp [packChars, bodyChars, hm]⟩
  | some .null => exact Or.inl ⟨rfl, by simp [packChars, bodyChars, hm]⟩
  | some (.bool _) | some (.num _) | some (.str _) | some (.arr _) | some (.obj _) =>
    exact Or.inr ⟨_, rfl, rfl, by simp [packChars, bodyChars, hm]⟩

theorem count_lineFeed (v : Json) : v.chars.count '\n' = 0 :=
  List.count_eq_zero.mpr (chars_lineFeed v)

theorem packChars_unseparated (v : Version) (m : Message) :
    ¬ separatorChars <:+: packChars v m := by
  intro inside
  have two : 2 ≤ (packChars v m).count '\n' := inside.sublist.count_le '\n'
  rcases packChars_cases v m with ⟨-, heq⟩ | ⟨w, -, -, heq⟩
  · simp [heq, count_lineFeed] at two
  · simp [heq, count_lineFeed] at two

theorem packChars_apart (v : Version) (m : Message) :
    (packChars v m).getLast? ≠ some '\n' := by
  have last (w : Json) : w.chars.getLast? ≠ some '\n' :=
    fun h => chars_lineFeed w (List.mem_of_getLast? h)
  rcases packChars_cases v m with ⟨-, heq⟩ | ⟨w, -, -, heq⟩
  · rw [heq]
    exact last _
  · obtain ⟨c, hc⟩ := Option.ne_none_iff_exists'.mp
      (mt List.getLast?_eq_none_iff.mp (chars_ne_nil w))
    have hw := last w
    simpa [heq, List.getLast?_append, List.getLast?_cons, hc] using hw

theorem cutLine_packChars (v : Version) (m : Message) :
    cutLine (packChars v m) =
      ((header v m).chars, ((m.body.filter (!·.isNull)).map chars).getD []) := by
  have oneLine := chars_lineFeed (header v m)
  rcases packChars_cases v m with ⟨hbody, heq⟩ | ⟨w, hbody, -, heq⟩
  · rw [heq, hbody, cutLine_of_not_mem oneLine]
    rfl
  · rw [heq, hbody, cutLine_append oneLine]
    rfl

/-- The body that was written is the body that is read. -/
theorem withBody_written {m : Message} (absent : m.body = none) {body : Option Json}
    (doc : ∀ v ∈ body, v.IsDocument) :
    withBody m ((body.map chars).getD []) = ⟨{ m with body }, []⟩ := by
  cases body with
  | none =>
    cases m
    simp_all [withBody]
  | some v => simp [withBody, chars_ne_nil, parseChars?_chars (doc v rfl)]

/-- A packed message is read as the message of its header with its body. -/
theorem unpackSegment_written (v : Version) {m h : Message}
    (legible : (header v m).EveryNumber Number.Legible)
    (back : ofHeader? v (Draft.ofJson (header v m)) = some h) (absent : h.body = none)
    (bodies : ∀ b ∈ m.body, b.IsDocument) :
    unpackSegment v (packChars v m) =
      ⟨some { h with body := m.body.filter (!·.isNull) }.withUpdate, []⟩ := by
  have written : ∀ b ∈ m.body.filter (!·.isNull), b.IsDocument :=
    fun b hb => bodies b (Option.mem_filter_iff.mp hb).1
  have hparse := Draft.parse?_chars legible
  simp only [unpackSegment, cutLine_packChars, hparse, Option.bind_some, back]
  rw [withBody_written absent written]

theorem unpackSegment_packChars {m : Message} (wf : m.WellFormed)
    (bodies : ∀ v ∈ m.body, v.IsDocument) :
    unpackSegment .v2 (packChars .v2 m) = ⟨some m.normal, []⟩ := by
  rw [unpackSegment_written .v2 (V2.header_legible m) (V2.ofHeader?_header wf) rfl bodies]
  by_cases silent : MessageKind.ofCode m.kind.code = .publish ∧
      (m.update.map fun u => UpdateKind.ofCode u.code) = none
  · simp only [Message.withUpdate, Message.normal, if_pos silent]
  · simp only [Message.withUpdate, Message.normal, if_neg silent]

theorem unpackSegment_packChars_legacy {m : Message} (wf : m.WellFormed)
    (bodies : ∀ v ∈ m.body, v.IsDocument) :
    unpackSegment .v1 (packChars .v1 m) = ⟨some m.legacy, []⟩ := by
  rw [unpackSegment_written .v1 (V1.header_legible m) (V1.ofHeader?_header wf) rfl bodies]
  by_cases full : m.update = some .full
  · simp [Message.withUpdate, Message.legacy, full]
  · by_cases publish : MessageKind.ofCode m.kind.code = .publish
    · simp [Message.withUpdate, Message.legacy, full, publish]
    · simp [Message.withUpdate, Message.legacy, full, publish]

/-- A packed message comes back as what its version keeps of it, and without notices. -/
theorem unpackSegment_kept {v : Version} {m : Message} (wf : m.WellFormed)
    (bodies : ∀ b ∈ m.body, b.IsDocument) :
    unpackSegment v (packChars v m) = ⟨some (m.kept v), []⟩ := by
  cases v with
  | v1 => exact unpackSegment_packChars_legacy wf bodies
  | v2 => exact unpackSegment_packChars wf bodies

theorem packChars_ne_nil (v : Version) (m : Message) : packChars v m ≠ [] := by
  simp [packChars, chars_ne_nil]

theorem segments_packed (v : Version) {ms : List Message} (nonempty : ms ≠ []) :
    segments (separatorChars.intercalate (ms.map (packChars v))) = ms.map (packChars v) := by
  apply segments_intercalate (by simpa using nonempty)
  · intro p hp
    obtain ⟨m, -, rfl⟩ := List.mem_map.mp hp
    exact packChars_unseparated v m
  · intro p hp
    obtain ⟨m, -, rfl⟩ := List.mem_map.mp (List.dropLast_subset _ hp)
    exact packChars_apart v m

/-- A batch is read segment by segment. -/
theorem unpack_packed {v : Version} {ms : List Message} {f : Message → Message}
    (back : ∀ m ∈ ms, unpackSegment v (packChars v m) = ⟨some (f m), []⟩) :
    unpack v (packBatch v ms) = ⟨ms.map f, []⟩ := by
  cases ms with
  | nil => rfl
  | cons m ms =>
    have nonempty : separatorChars.intercalate ((m :: ms).map (packChars v)) ≠ [] := by
      intro hnil
      have hseg := segments_packed v (List.cons_ne_nil m ms)
      rw [hnil, List.map_cons] at hseg
      exact packChars_ne_nil v m (List.cons.inj hseg).1.symm
    have parts : ((m :: ms).map (packChars v)).map (unpackSegment v) =
        (m :: ms).map fun n => ⟨some (f n), []⟩ := by
      rw [List.map_map]
      exact List.map_congr_left back
    rw [unpack, packBatch, String.toList_ofList, unpackChars, if_neg (by simpa using nonempty),
      segments_packed v (by simp), parts]
    simp

/-- Every batch comes back message by message, in normal form and without notices. -/
theorem unpack_packBatch {ms : List Message} (wf : ∀ m ∈ ms, m.WellFormed)
    (bodies : ∀ m ∈ ms, ∀ v ∈ m.body, v.IsDocument) :
    unpack .v2 (packBatch .v2 ms) = ⟨ms.map Message.normal, []⟩ :=
  unpack_packed fun m hm => unpackSegment_packChars (wf m hm) (bodies m hm)

/-- Line feeds in strings separate nothing, a code that names a kind becomes that
kind, and a null body is dropped. -/
theorem unpack_packBatch_lineFeeds :
    unpack .v2 (packBatch .v2
        [{ kind := .other 0, uri := some "a\n\nb", error := some ⟨.transport, "\n", some (-1)⟩,
           body := some (.obj [("f", .num (.float ⟨false, 0x3FF8000000000000, by decide⟩)),
             ("s", .str "\n\n")]) },
         { kind := .pong, subscriptions := some ⟨[("b", 2), ("a", -1)]⟩, body := some .null }]) =
      ⟨[{ kind := .publish, uri := some "a\n\nb", error := some ⟨.transport, "\n", some (-1)⟩,
          update := some .diff,
          body := some (.obj [("f", .num (.float ⟨false, 0x3FF8000000000000, by decide⟩)),
            ("s", .str "\n\n")]) },
        { kind := .pong, subscriptions := some ⟨[("b", 2), ("a", -1)]⟩ }], []⟩ := by
  have float : Double.ReadsBack ⟨false, 0x3FF8000000000000, by decide⟩ :=
    readsBack_iff_legible.mpr ⟨⟨false, [1], some [5], none⟩, by decide +kernel, by decide +kernel⟩
  apply unpack_packBatch
  · simp only [List.forall_mem_cons]
    refine ⟨⟨by simp, by simp⟩, ⟨?_, by simp⟩, by simp⟩
    simp only [Option.mem_some_iff, forall_eq']
    decide
  · simp only [List.forall_mem_cons, Option.mem_some_iff, forall_eq']
    refine ⟨⟨?_, by decide, float, trivial, trivial⟩, ⟨trivial, by decide, trivial⟩, by simp⟩
    exact ⟨by decide, trivial, trivial, trivial⟩

/-- In version 1 every batch comes back message by message too, without notices, as what
that version knows of its messages. -/
theorem unpack_packBatch_legacy {ms : List Message} (wf : ∀ m ∈ ms, m.WellFormed)
    (bodies : ∀ m ∈ ms, ∀ b ∈ m.body, b.IsDocument) :
    unpack .v1 (packBatch .v1 ms) = ⟨ms.map Message.legacy, []⟩ :=
  unpack_packed fun m hm => unpackSegment_packChars_legacy (wf m hm) (bodies m hm)

/-- An update that is not full is taken for a diff, a cursor without a topic is lost, and
what this version has no letter for does not travel. -/
theorem unpack_packBatch_legacy_lossy :
    unpack .v1 (packBatch .v1
        [{ kind := .other 0, id := some 7, uri := some "\n\n", ts := some (-3),
           update := some .append, metadata := some ⟨[("lang", "en")]⟩,
           body := some (.arr [.str "\n\n"]) },
         { kind := .subscribe, update := some .full, body := some .null,
           subscriptions := some ⟨[("b", 2), ("", 9), ("a", -1)]⟩ },
         { kind := .response, error := some ⟨.transport, "down", none⟩, update := some .close,
           subscriptions := some ⟨[("", 1)]⟩ }]) =
      ⟨[{ kind := .publish, uri := some "\n\n", ts := some (-3), update := some .diff,
          body := some (.arr [.str "\n\n"]) },
        { kind := .subscribe, update := some .full,
          subscriptions := some ⟨[("b", 2), ("a", -1)]⟩ },
        { kind := .response, subscriptions := some ⟨[]⟩ }], []⟩ := by
  apply unpack_packBatch_legacy
  · simp only [List.forall_mem_cons]
    refine ⟨⟨by simp, ?_⟩, ⟨?_, by simp⟩, ⟨?_, by simp⟩, by simp⟩
    all_goals
      simp only [Option.mem_some_iff, forall_eq']
      decide
  · simp only [List.forall_mem_cons, Option.mem_some_iff, forall_eq']
    exact ⟨⟨⟨trivial, trivial⟩, by decide, trivial, trivial⟩, ⟨trivial, by decide, trivial⟩,
      by simp, by simp⟩

end Wire

end TopicClient
