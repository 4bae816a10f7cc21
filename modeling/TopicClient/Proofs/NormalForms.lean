import TopicClient.Proofs.ParsedValues
import TopicClient.Proofs.Segments

/-!
# Normal forms

Reading is lenient, but what it yields is not: defaults are filled in, codes have become
kinds, topics do not repeat and metadata is in order. Such a message comes back from its
own text as it is, so reading, packing and reading again ends where the first reading did.
-/

namespace TopicClient

theorem MessageKind.ofCode_code_ofCode (c : UInt8) : ofCode (ofCode c).code = ofCode c := by
  fun_cases ofCode c <;> simp_all [code, ofCode]

theorem UpdateKind.ofCode_code_ofCode (c : UInt8) : ofCode (ofCode c).code = ofCode c := by
  fun_cases ofCode c <;> simp_all [code, ofCode]

/-- A null body is written like none. -/
def Message.withoutNull (m : Message) : Message := { m with body := m.body.filter (!·.isNull) }

namespace Wire

open Json Json.Draft

/-! ## Headers that have been read -/

/-- A kind that was read, or is there by default, has a code of its own. -/
theorem ofCode_code_read (o : Option UInt8) :
    let kind := (o.map MessageKind.ofCode).getD .publish
    MessageKind.ofCode kind.code = kind := by
  cases o with
  | none => rfl
  | some c => exact MessageKind.ofCode_code_ofCode c

/-- The message of a header of version 2. -/
structure V2.Read (m : Message) : Prop where
  wf : m.WellFormed
  kind : MessageKind.ofCode m.kind.code = m.kind
  update : (m.update.map fun u => UpdateKind.ofCode u.code) = m.update

theorem V2.read_ofHeader? {d : Draft} {m : Message} (h : V2.ofHeader? d = some m) :
    V2.Read m := by
  simp only [V2.ofHeader?, Option.bind_eq_bind, Option.bind_eq_some_iff] at h
  obtain ⟨fields, -, h⟩ := h
  split at h
  · simp only [Option.bind_eq_some_iff, Option.some.injEq] at h
    obtain ⟨kind, -, _, -, _, -, _, -, _, -, update, -, topics, -, names, -, rfl⟩ := h
    refine ⟨⟨?_, ?_⟩, ofCode_code_read kind, ?_⟩
    · intro c hc
      obtain ⟨es, -, rfl⟩ := Option.map_eq_some_iff.mp hc
      exact Assoc.distinct_ofList es
    · intro n hn
      obtain ⟨es, -, rfl⟩ := Option.map_eq_some_iff.mp hn
      exact Assoc.ascending_ofListSorted es
    · cases update with
      | none => rfl
      | some c => exact congrArg some (UpdateKind.ofCode_code_ofCode c)
  · cases h

/-- The message of a header of version 1. -/
structure V1.Read (m : Message) : Prop where
  kind : MessageKind.ofCode m.kind.code = m.kind
  id : m.id = none
  error : m.error = none
  metadata : m.metadata = none
  update : m.update = none ∨ m.update = some .full
  topics : ∀ c ∈ m.subscriptions, Assoc.Distinct c.entries
  nonempty : ∀ c ∈ m.subscriptions, ∀ topic ∈ c.topics, topic ≠ ""

theorem V1.Read.wf {m : Message} (h : V1.Read m) : m.WellFormed where
  topics := h.topics
  names d hd := by
    rw [h.metadata] at hd
    cases hd

theorem V1.nonempty_cursorsOf (es : List (String × Int64)) :
    ∀ topic ∈ (V1.cursorsOf es).topics, topic ≠ "" := by
  intro topic hmem
  have hkey := Assoc.mem_keys_of_mem_keys_ofList hmem
  obtain ⟨e, he, rfl⟩ := List.mem_map.mp hkey
  simpa using (List.mem_filter.mp he).2

theorem V1.read_ofHeader? {d : Draft} {m : Message} (h : V1.ofHeader? d = some m) :
    V1.Read m := by
  simp only [V1.ofHeader?, Option.bind_eq_bind, Option.bind_eq_some_iff] at h
  obtain ⟨fields, -, h⟩ := h
  split at h
  · simp only [Option.bind_eq_some_iff, Option.some.injEq] at h
    obtain ⟨full, -, kind, -, _, -, _, -, topics, -, rfl⟩ := h
    refine ⟨ofCode_code_read kind, rfl, rfl, rfl, ?_, ?_, ?_⟩
    · dsimp only
      split
      · exact .inr rfl
      · exact .inl rfl
    · intro c hc
      obtain ⟨es, -, rfl⟩ := Option.map_eq_some_iff.mp hc
      exact Assoc.distinct_ofList _
    · intro c hc
      obtain ⟨es, -, rfl⟩ := Option.map_eq_some_iff.mp hc
      exact V1.nonempty_cursorsOf es
  · cases h

/-! ## Messages that have been read -/

/-- A message is settled in a version that keeps it as it is, but for a null body. -/
structure Settled (v : Version) (m : Message) : Prop where
  wf : m.WellFormed
  kept : m.kept v = m.withoutNull

theorem V2.Read.settled {m : Message} (h : V2.Read m) (body : Option Json) :
    Settled .v2 { m.withUpdate with body } := by
  constructor
  · rw [Message.withUpdate]
    split <;> exact ⟨h.wf.topics, h.wf.names⟩
  · by_cases silent : m.kind = .publish ∧ m.update = none
    · simp [Message.kept, Message.normal, Message.withoutNull, Message.withUpdate, silent,
        MessageKind.code, MessageKind.ofCode, UpdateKind.code, UpdateKind.ofCode]
    · simp only [Message.kept, Message.normal, Message.withoutNull, Message.withUpdate,
        if_neg silent, h.kind, h.update]

theorem V1.Read.settled {m : Message} (h : V1.Read m) (body : Option Json) :
    Settled .v1 { m.withUpdate with body } := by
  constructor
  · rw [Message.withUpdate]
    split <;> exact ⟨h.wf.topics, h.wf.names⟩
  · have cursors : (m.subscriptions.map fun c =>
        (⟨c.entries.filter fun e => e.1 != ""⟩ : Cursors)) = m.subscriptions := by
      cases hc : m.subscriptions with
      | none => rfl
      | some c =>
        have hall : ∀ e ∈ c.entries, (e.1 != "") = true := fun e he => by
          simpa using h.nonempty c hc e.1 (List.mem_map_of_mem he)
        simp only [Option.map_some, List.filter_eq_self.mpr hall]
    obtain ⟨kind, id, error, uri, ts, update, subscriptions, metadata, _⟩ := m
    obtain ⟨hkind, rfl, rfl, rfl, hupdate, -, -⟩ := h
    dsimp only at hkind hupdate cursors
    by_cases publish : kind = .publish
    · subst publish
      rcases hupdate with rfl | rfl <;>
        simp [Message.kept, Message.legacy, Message.withoutNull, Message.withUpdate, hkind, cursors]
    · rcases hupdate with rfl | rfl <;>
        simp [Message.kept, Message.legacy, Message.withoutNull, Message.withUpdate, hkind,
          publish, cursors]

/-- What has been read from a segment is settled, and its body has been read too. -/
theorem settled_unpackSegment {v : Version} {segment : List Char} {m : Message}
    (h : (unpackSegment v segment).result = some m) :
    Settled v m ∧ ∀ b ∈ m.body, ∃ cs, parseChars? cs = some b := by
  rcases unpackSegment_cases v segment with ⟨-, hdropped⟩ | ⟨head, hread, hresult, -⟩
  · rw [hdropped] at h
    cases h
  · obtain rfl := Option.some.inj (hresult.symm.trans h)
    obtain ⟨d, -, hheader⟩ := Option.bind_eq_some_iff.mp hread
    refine ⟨?_, fun b hb => ⟨_, hb⟩⟩
    cases v with
    | v1 => exact (V1.read_ofHeader? hheader).settled _
    | v2 => exact (V2.read_ofHeader? hheader).settled _

theorem exists_segment {v : Version} {p : String} {m : Message} (h : m ∈ (unpack v p).result) :
    ∃ segment, (unpackSegment v segment).result = some m := by
  rw [unpack, unpackChars] at h
  split at h
  · cases h
  · obtain ⟨u, hu, hm⟩ := List.mem_filterMap.mp h
    obtain ⟨segment, -, rfl⟩ := List.mem_map.mp hu
    exact ⟨segment, hm⟩

theorem packChars_withoutNull (v : Version) (m : Message) :
    packChars v m.withoutNull = packChars v m := by
  have hheader : header v m.withoutNull = header v m := by cases v <;> rfl
  have hbody : bodyChars m.withoutNull.body = bodyChars m.body := by
    rw [Message.withoutNull]
    match m.body with
    | none | some .null => rfl
    | some (.bool _) | some (.num _) | some (.str _) | some (.arr _) | some (.obj _) => rfl
  rw [packChars, packChars, hheader, hbody]

theorem packBatch_withoutNull (v : Version) (ms : List Message) :
    packBatch v (ms.map Message.withoutNull) = packBatch v ms := by
  simp only [packBatch, List.map_map, Function.comp_def, packChars_withoutNull]

/-- Whatever text was read, the messages that came of it come back from their own text as
they are, without notices, but that a null body is absent; and packing those gives the
same text again. The doubles of their bodies must be such that read back. -/
theorem unpack_packBatch_unpack (v : Version) (p : String)
    (floats : ∀ m ∈ (unpack v p).result, ∀ b ∈ m.body, b.FloatsReadBack) :
    let ms := (unpack v p).result
    let q := packBatch v ms
    unpack v q = ⟨ms.map Message.withoutNull, []⟩ ∧ packBatch v (unpack v q).result = q := by
  intro ms q
  have hback : unpack v q = ⟨ms.map Message.withoutNull, []⟩ := by
    refine unpack_packed fun m hm => ?_
    obtain ⟨segment, hsegment⟩ := exists_segment hm
    obtain ⟨hsettled, hbody⟩ := settled_unpackSegment hsegment
    have documents : ∀ b ∈ m.body, b.IsDocument := by
      intro b hb
      obtain ⟨cs, hcs⟩ := hbody b hb
      exact isDocument_of_parseChars? hcs (floats m hm b hb)
    rw [unpackSegment_kept hsettled.wf documents, hsettled.kept]
  refine ⟨hback, ?_⟩
  rw [hback]
  exact packBatch_withoutNull v ms

/-- Whether the body is one that the text below has: none, null or the double 1.5. -/
def nullOrOneAndAHalf : Json → Bool
  | .null => true
  | .num (.float x) => x == ⟨false, 0x3FF8000000000000, by decide⟩
  | _ => false

theorem floatsReadBack_of_nullOrOneAndAHalf {b : Json} (h : nullOrOneAndAHalf b) :
    b.FloatsReadBack := by
  match b, h with
  | .null, _ => trivial
  | .num (.float x), h =>
    obtain rfl : x = ⟨false, 0x3FF8000000000000, by decide⟩ := by
      simpa only [nullOrOneAndAHalf, beq_iff_eq] using h
    exact readsBack_iff_legible.mpr
      ⟨⟨false, [1], some [5], none⟩, by decide +kernel, by decide +kernel⟩

/-- A header that is an array, a topic that repeats, a cursor without a topic, a null body
and a flag that is no truth value. -/
theorem unpack_packBatch_unpack_lenient :
    let p := "[1,null,null,null,[[\"b\",2],\x7b\"n\":9\x7d,[\"a\"],[\"b\",3]]]\nnull\n\n" ++
      "\x7b\"f\":\"yes\",\"x\":[\x7d\x7d\n\n\x7b\"f\":\"yes\",\"x\":[]\x7d\n1.5"
    let ms := (unpack .v1 p).result
    let q := packBatch .v1 ms
    (∀ m ∈ ms, ∀ b ∈ m.body, b.FloatsReadBack) ∧
      q = "\x7b\"t\":1,\"u\":[\x7b\"s\":\"b\",\"n\":3\x7d,\x7b\"s\":\"a\",\"n\":0\x7d]\x7d\n\n" ++
        "\x7b\"t\":0,\"f\":1\x7d\n1.5" ∧
      unpack .v1 q = ⟨ms.map Message.withoutNull, []⟩ ∧
        packBatch .v1 (unpack .v1 q).result = q := by
  intro p ms q
  have bodies : ms.all fun m => m.body.all nullOrOneAndAHalf := by decide +kernel
  have floats : ∀ m ∈ ms, ∀ b ∈ m.body, b.FloatsReadBack := by
    intro m hm b hb
    have hbody := List.all_eq_true.mp bodies m hm
    rw [Option.mem_def.mp hb] at hbody
    exact floatsReadBack_of_nullOrOneAndAHalf hbody
  exact ⟨floats, by decide +kernel, unpack_packBatch_unpack .v1 p floats⟩

end Wire

end TopicClient
