import TopicClient.Proofs.ValueText
import TopicClient.Wire.Header

/-!
# Reading headers back

A header is a sequence of fields whose names differ, so each field is found by
its name and holds what was written, or is missing if nothing was. Codes come
back as the kinds they name, everything else as it was.
-/

namespace TopicClient

/-- Topics and metadata are maps: no topic repeats, and names ascend. -/
structure Message.WellFormed (m : Message) : Prop where
  topics : ∀ c ∈ m.subscriptions, Assoc.Distinct c.entries
  names : ∀ d ∈ m.metadata, Assoc.Ascending d.entries

namespace Wire

open Json Json.Draft

/-! ## Fields -/

theorem ofMembers_append (xs ys : List (String × Json)) :
    ofMembers (xs ++ ys) = ofMembers xs ++ ofMembers ys := by
  induction xs with
  | nil => rfl
  | cons m xs ih => simp [ofMembers, ih]

theorem named_append (name : String) (xs ys : List (Option String × Draft)) :
    named name (xs ++ ys) = named name xs ++ named name ys :=
  List.filterMap_append

theorem named_field {α : Type} (name other : String) (write : α → Json) (o : Option α) :
    named name (ofMembers (field other write o)) =
      if other = name then (o.map fun a => ofJson (write a)).toList else [] := by
  cases o with
  | none => simp [field, ofMembers, named]
  | some a => by_cases h : other = name <;> simp [field, ofMembers, named, h]

theorem all_names_ofMembers (ms : List (String × Json)) :
    (ofMembers ms).all (·.1.isSome) = true := by
  induction ms with
  | nil => rfl
  | cons m ms ih => simpa [ofMembers] using ih

theorem fieldOption_some {α : Type} {read : Draft → Option α} {d : Draft} (h : d ≠ .null) :
    fieldOption read (some d) = (read d).map some := by
  cases d with
  | null => exact absurd rfl h
  | _ => rfl

/-- A field that is written unless absent, and never as null, is read back. -/
theorem fieldOption_map {α β : Type} {read : Draft → Option β} {write : α → Json} {f : α → β}
    {o : Option α} (back : ∀ a ∈ o, read (ofJson (write a)) = some (f a))
    (written : ∀ a, write a ≠ .null) :
    fieldOption read (o.map fun a => ofJson (write a)) = some (o.map f) := by
  cases o with
  | none => rfl
  | some a =>
    have hnull : ofJson (write a) ≠ .null := by
      have := written a
      cases h : write a <;> simp_all [ofJson]
    simp [fieldOption_some hnull, back a rfl]

/-! ## What fields hold -/

theorem uint8?_codeJson (c : UInt8) : uint8? (ofJson (codeJson c)) = some c := by
  have := c.toNat_lt
  have bound : (c.toNat : Int) ≤ 255 := by omega
  simp [codeJson, Json.nat, ofJson, uint8?, intBetween?, bound]

theorem uint64?_idJson (id : UInt64) : uint64? (ofJson (idJson id)) = some id := by
  have := id.toNat_lt
  have bound : (id.toNat : Int) ≤ 18446744073709551615 := by omega
  simp [idJson, Json.nat, ofJson, uint64?, intBetween?, bound]

theorem int64?_tsJson (ts : Int64) : int64? (ofJson (tsJson ts)) = some ts := by
  have low : (-9223372036854775808 : Int) ≤ ts.toInt := ts.le_toInt
  have high : ts.toInt ≤ 9223372036854775807 := by have := ts.toInt_lt; omega
  simp [tsJson, Json.int, ofJson, int64?, intBetween?, low, high]

theorem read_code (o : Option UInt8) :
    fieldOption uint8? (o.map fun c => ofJson (codeJson c)) = some o := by
  simpa using fieldOption_map (f := id) (fun c _ => uint8?_codeJson c)
    (fun c => by simp [codeJson, Json.nat]) (o := o)

theorem read_id (o : Option UInt64) :
    fieldOption uint64? (o.map fun i => ofJson (idJson i)) = some o := by
  simpa using fieldOption_map (f := id) (fun i _ => uint64?_idJson i)
    (fun i => by simp [idJson, Json.nat]) (o := o)

theorem read_ts (o : Option Int64) :
    fieldOption int64? (o.map fun t => ofJson (tsJson t)) = some o := by
  simpa using fieldOption_map (f := id) (fun t _ => int64?_tsJson t)
    (fun t => by simp [tsJson, Json.int]) (o := o)

theorem read_text (o : Option String) :
    fieldOption string? (o.map fun s => ofJson (.str s)) = some o := by
  have back (s : String) (_ : s ∈ o) : string? (ofJson (.str s)) = some (id s) := rfl
  simpa using fieldOption_map back (fun s => by simp)

theorem mapM_ofMembers {α β : Type} {read : Draft → Option β} {write : α → Json} {f : α → β}
    (back : ∀ a, read (ofJson (write a)) = some (f a)) (es : List (String × α)) :
    (ofMembers (es.map fun e => (e.1, write e.2))).mapM
        (fun m => do some (← m.1, ← read m.2)) =
      some (es.map fun e => (e.1, f e.2)) := by
  induction es with
  | nil => rfl
  | cons e es ih => simp_all [ofMembers]

theorem entries?_cursorsJson (c : Cursors) :
    entries? int64? (ofJson (V2.cursorsJson c)) = some c.entries := by
  simpa [V2.cursorsJson, ofJson, entries?] using mapM_ofMembers int64?_tsJson c.entries

theorem entries?_metadataJson (m : Metadata) :
    entries? string? (ofJson (V2.metadataJson m)) = some m.entries := by
  have back (s : String) : string? (ofJson (.str s)) = some (id s) := rfl
  simpa [V2.metadataJson, ofJson, entries?] using mapM_ofMembers back m.entries

/-! ## Numbers of a header -/

theorem everyNumberMembers_append {P : Number → Prop} {xs ys : List (String × Json)} :
    EveryNumberMembers P (xs ++ ys) ↔ EveryNumberMembers P xs ∧ EveryNumberMembers P ys := by
  induction xs with
  | nil => simp [EveryNumberMembers]
  | cons m xs ih => simp [EveryNumberMembers, ih, and_assoc]

theorem everyNumberMembers_map {α : Type} {P : Number → Prop} {write : α → Json}
    (h : ∀ a, (write a).EveryNumber P) (es : List (String × α)) :
    EveryNumberMembers P (es.map fun e => (e.1, write e.2)) := by
  induction es with
  | nil => trivial
  | cons e es ih => exact ⟨h e.2, ih⟩

theorem everyNumberMembers_field {α : Type} {P : Number → Prop} {write : α → Json}
    (h : ∀ a, (write a).EveryNumber P) (name : String) (o : Option α) :
    EveryNumberMembers P (field name write o) := by
  cases o with
  | none => trivial
  | some a => exact ⟨h a, trivial⟩

theorem codeJson_legible (c : UInt8) : (codeJson c).EveryNumber Number.Legible := by
  have := c.toNat_lt
  exact int_legible ⟨by omega, by omega⟩

theorem idJson_legible (id : UInt64) : (idJson id).EveryNumber Number.Legible := by
  have := id.toNat_lt
  exact int_legible ⟨by omega, by omega⟩

theorem tsJson_legible (ts : Int64) : (tsJson ts).EveryNumber Number.Legible := by
  have low := ts.le_toInt
  have high := ts.toInt_lt
  exact int_legible ⟨by omega, by omega⟩

theorem text_legible (s : String) : (Json.str s).EveryNumber Number.Legible := trivial

/-! ## Version 2 -/

theorem named_cons (name other : String) (v : Json) (ms : List (String × Json)) :
    named name (ofMembers ((other, v) :: ms)) =
      (if other = name then [ofJson v] else []) ++ named name (ofMembers ms) := by
  by_cases h : other = name <;> simp [ofMembers, named, h]

theorem fields?_ofMembers {names : List String} {ms : List (String × Json)}
    (once : ∀ name ∈ names, (named name (ofMembers ms)).length ≤ 1) :
    (ofJson (.obj ms)).fields? names =
      some (names.map fun name => (named name (ofMembers ms)).head?) := by
  have hall : (names.all fun name => decide ((named name (ofMembers ms)).length ≤ 1)) = true := by
    simpa using once
  rw [ofJson, fields?, all_names_ofMembers, hall]
  rfl

namespace V2

theorem fields?_errorJson (e : ServerError) :
    (ofJson (errorJson e)).fields? ["s", "m", "c"] =
      some [some (ofJson (codeJson e.origin.code)), some (.str (some e.message)),
        e.code.map fun c => ofJson (tsJson c)] := by
  rw [errorJson, fields?_ofMembers]
  · simp [named_cons, named_field, ofJson]
  · simp [named_cons, named_field]

theorem error?_errorJson (e : ServerError) : error? (ofJson (errorJson e)) = some e := by
  simp [error?, fields?_errorJson, fieldOr, uint8?_codeJson, string?, read_ts]

theorem read_error (o : Option ServerError) :
    fieldOption error? (o.map fun e => ofJson (errorJson e)) = some o := by
  simpa using fieldOption_map (f := id) (fun e _ => error?_errorJson e)
    (fun e => by simp [errorJson]) (o := o)

theorem read_topics (o : Option Cursors) :
    fieldOption (entries? int64?) (o.map fun c => ofJson (cursorsJson c)) =
      some (o.map Cursors.entries) :=
  fieldOption_map (fun c _ => entries?_cursorsJson c) (fun c => by simp [cursorsJson])

theorem read_names (o : Option Metadata) :
    fieldOption (entries? string?) (o.map fun d => ofJson (metadataJson d)) =
      some (o.map Metadata.entries) :=
  fieldOption_map (fun d _ => entries?_metadataJson d) (fun d => by simp [metadataJson])

theorem fields?_header (m : Message) :
    (ofJson (.obj (header m))).fields? ["t", "i", "e", "u", "s", "p", "b", "m"] =
      some [some (ofJson (codeJson m.kind.code)), m.id.map fun i => ofJson (idJson i),
        m.error.map fun e => ofJson (errorJson e), m.uri.map fun u => ofJson (.str u),
        m.ts.map fun t => ofJson (tsJson t), m.update.map fun u => ofJson (codeJson u.code),
        m.subscriptions.map fun c => ofJson (cursorsJson c),
        m.metadata.map fun d => ofJson (metadataJson d)] := by
  rw [header, fields?_ofMembers]
  · simp [ofMembers_append, named_append, named_cons, named_field]
  · simp [ofMembers_append, named_append, named_cons, named_field]

theorem errorJson_legible (e : ServerError) : (errorJson e).EveryNumber Number.Legible :=
  ⟨codeJson_legible _, text_legible _, everyNumberMembers_field tsJson_legible "c" e.code⟩

theorem header_legible (m : Message) : (Json.obj (header m)).EveryNumber Number.Legible := by
  have topics (c : Cursors) : (cursorsJson c).EveryNumber Number.Legible :=
    everyNumberMembers_map tsJson_legible c.entries
  have names (d : Metadata) : (metadataJson d).EveryNumber Number.Legible :=
    everyNumberMembers_map text_legible d.entries
  have code (u : UpdateKind) := codeJson_legible u.code
  simp only [EveryNumber, header, everyNumberMembers_append]
  exact ⟨⟨⟨⟨⟨⟨⟨⟨codeJson_legible _, trivial⟩, everyNumberMembers_field idJson_legible _ _⟩,
    everyNumberMembers_field errorJson_legible _ _⟩, everyNumberMembers_field text_legible _ _⟩,
    everyNumberMembers_field tsJson_legible _ _⟩, everyNumberMembers_field code _ _⟩,
    everyNumberMembers_field topics _ _⟩, everyNumberMembers_field names _ _⟩

/-- A header reads back as its message, with codes in place of kinds and no body. -/
theorem ofHeader?_header {m : Message} (wf : m.WellFormed) :
    ofHeader? (ofJson (.obj (header m))) =
      some { m with
        kind := .ofCode m.kind.code
        update := m.update.map fun u => .ofCode u.code
        body := none } := by
  have kind := read_code (some m.kind.code)
  have update := read_code (m.update.map UpdateKind.code)
  rw [Option.map_some] at kind
  rw [Option.map_map] at update
  have topics : (m.subscriptions.map Cursors.entries).map Cursors.ofList = m.subscriptions := by
    cases hc : m.subscriptions with
    | none => rfl
    | some c => simp [Cursors.ofList, Assoc.ofList_of_distinct (wf.topics c hc)]
  have names : (m.metadata.map Metadata.entries).map Metadata.ofList = m.metadata := by
    cases hd : m.metadata with
    | none => rfl
    | some d => simp [Metadata.ofList, Assoc.ofListSorted_of_ascending (wf.names d hd)]
  simp only [Function.comp_def] at update
  simp [ofHeader?, fields?_header, kind, read_id, read_error, read_text, read_ts, update,
    read_topics, read_names, topics, names]
  rfl

end V2

/-! ## Version 1 -/

namespace V1

theorem cursor?_written (e : String × Int64) :
    cursor? (ofJson (.obj [("s", .str e.1), ("n", tsJson e.2)])) = some e := by
  have fields : (ofJson (.obj [("s", .str e.1), ("n", tsJson e.2)])).fields? ["s", "n"] =
      some [some (.str (some e.1)), some (ofJson (tsJson e.2))] := by
    rw [fields?_ofMembers]
    · simp [named, ofMembers, ofJson]
    · simp [named, ofMembers]
  simp [cursor?, fields, fieldOr, string?, int64?_tsJson]

theorem list?_cursorsJson (c : Cursors) :
    list? cursor? (ofJson (cursorsJson c)) = some c.entries := by
  simp only [cursorsJson, ofJson, list?]
  induction c.entries with
  | nil => rfl
  | cons e es ih => simp [ofItems, cursor?_written, ih]

theorem read_cursors (o : Option Cursors) :
    fieldOption (list? cursor?) (o.map fun c => ofJson (cursorsJson c)) =
      some (o.map Cursors.entries) :=
  fieldOption_map (fun c _ => list?_cursorsJson c) (fun c => by simp [cursorsJson])

/-- The flag of a full update as a field that may be absent. -/
theorem flag_eq_field (m : Message) :
    (if m.update = some .full then [("f", Json.nat 1)] else []) =
      field "f" (fun _ => Json.nat 1) (if m.update = some .full then some () else none) := by
  by_cases full : m.update = some .full
  · simp only [if_pos full, field]
  · simp only [if_neg full, field]

theorem read_flag (o : Option Unit) :
    fieldOption (Draft.json? (nestingLimit - 1)) (o.map fun _ => ofJson (Json.nat 1)) =
      some (o.map fun _ => Json.nat 1) := by
  cases o <;> rfl

theorem fields?_header (m : Message) :
    (ofJson (.obj (header m))).fields? ["t", "s", "n", "f", "u"] =
      some [some (ofJson (codeJson m.kind.code)), m.uri.map fun u => ofJson (.str u),
        m.ts.map fun t => ofJson (tsJson t),
        (if m.update = some .full then some () else none).map fun _ => ofJson (Json.nat 1),
        m.subscriptions.map fun c => ofJson (cursorsJson c)] := by
  rw [header, flag_eq_field, fields?_ofMembers]
  · simp [ofMembers_append, named_append, named_cons, named_field]
  · simp [ofMembers_append, named_append, named_cons, named_field]

theorem cursorsJson_legible (c : Cursors) : (cursorsJson c).EveryNumber Number.Legible := by
  simp only [cursorsJson, EveryNumber]
  induction c.entries with
  | nil => trivial
  | cons e es ih => exact ⟨⟨text_legible e.1, tsJson_legible e.2, trivial⟩, ih⟩

theorem header_legible (m : Message) : (Json.obj (header m)).EveryNumber Number.Legible := by
  have flag (_ : Unit) : (Json.nat 1).EveryNumber Number.Legible := int_legible (by decide)
  simp only [EveryNumber, header, flag_eq_field, everyNumberMembers_append]
  exact ⟨⟨⟨⟨⟨codeJson_legible _, trivial⟩, everyNumberMembers_field text_legible _ _⟩,
    everyNumberMembers_field tsJson_legible _ _⟩, everyNumberMembers_field flag _ _⟩,
    everyNumberMembers_field cursorsJson_legible _ _⟩

/-- A header reads back as what this version knows of its message: the kind by its code,
whether the update is a full one, and the cursors of named topics. -/
theorem ofHeader?_header {m : Message} (wf : m.WellFormed) :
    ofHeader? (ofJson (.obj (header m))) =
      some {
        kind := .ofCode m.kind.code
        uri := m.uri
        ts := m.ts
        update := if m.update = some .full then some .full else none
        subscriptions := m.subscriptions.map fun c => ⟨c.entries.filter fun e => e.1 != ""⟩ } := by
  have kind := read_code (some m.kind.code)
  rw [Option.map_some] at kind
  have cursors : (m.subscriptions.map Cursors.entries).map cursorsOf =
      m.subscriptions.map fun c => ⟨c.entries.filter fun e => e.1 != ""⟩ := by
    rw [Option.map_map]
    refine Option.map_congr fun c hc => ?_
    have distinct : Assoc.Distinct (c.entries.filter fun e => e.1 != "") :=
      (wf.topics c hc).sublist (List.filter_sublist.map Prod.fst)
    simp only [Function.comp_apply, cursorsOf, Cursors.ofList, Assoc.ofList_of_distinct distinct]
  have full : ((if m.update = some .full then some () else none).map fun _ => Json.nat 1).map
      isTruthy = if m.update = some .full then some true else none := by
    split <;> rfl
  simp only [ofHeader?, fields?_header, kind, read_text, read_ts, read_flag, read_cursors, full,
    Option.bind_eq_bind, Option.bind_some, Option.map_some, Option.getD_some, cursors]
  split <;> rfl

end V1

end Wire

end TopicClient
