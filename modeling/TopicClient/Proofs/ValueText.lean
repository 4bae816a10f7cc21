import TopicClient.Proofs.Entries
import TopicClient.Proofs.NumberText

/-!
# Reading values back

The compact text of a value holds no line feed, and it reads back as the draft
of that value whatever follows it, as long as its numbers read back. For a
document that is the value itself.
-/

namespace TopicClient.Json

/-! ## Strings -/

theorem hexChar_ne_lineFeed : ∀ d, d < 16 → hexChar d ≠ '\n' := by decide

theorem hexCode?_hexChar :
    ∀ n, n < 32 → hexCode? '0' '0' (hexChar (n / 16)) (hexChar (n % 16)) = some n := by
  decide

/-- A character is escaped by a letter, escaped by its code, or stands for itself. -/
theorem escapeChar_cases (c : Char) :
    (∃ e, escapeChar c = ['\\', e] ∧ escaped? e = some c ∧ e ≠ '\n') ∨
      (escapeChar c = ['\\', 'u', '0', '0', hexChar (c.toNat / 16), hexChar (c.toNat % 16)] ∧
        c.toNat < 32) ∨
      (escapeChar c = [c] ∧ c ≠ '"' ∧ c ≠ '\\' ∧ 32 ≤ c.toNat) := by
  by_cases letter : c = '"' ∨ c = '\\' ∨ c = '\n' ∨ c = '\r' ∨ c = '\t'
  · apply Or.inl
    rcases letter with rfl | rfl | rfl | rfl | rfl
    · exact ⟨'"', by decide⟩
    · exact ⟨'\\', by decide⟩
    · exact ⟨'n', by decide⟩
    · exact ⟨'r', by decide⟩
    · exact ⟨'t', by decide⟩
  obtain ⟨hquote, hslash, hfeed, hreturn, htab⟩ := by simpa [not_or] using letter
  by_cases hb : c.toNat = 8
  · have : c = Char.ofNat 8 := by rw [← hb, Char.ofNat_toNat]
    exact Or.inl ⟨'b', by subst this; decide⟩
  by_cases hf : c.toNat = 12
  · have : c = Char.ofNat 12 := by rw [← hf, Char.ofNat_toNat]
    exact Or.inl ⟨'f', by subst this; decide⟩
  apply Or.inr
  by_cases control : c.toNat < 32
  · exact Or.inl ⟨by simp [escapeChar, *], control⟩
  · exact Or.inr ⟨by simp [escapeChar, *], hquote, hslash, by omega⟩

theorem escapeChar_lineFeed (c : Char) : '\n' ∉ escapeChar c := by
  rcases escapeChar_cases c with ⟨e, heq, -, he⟩ | ⟨heq, small⟩ | ⟨heq, -, -, large⟩
  · simp [heq, Ne.symm he]
  · have high := hexChar_ne_lineFeed (c.toNat / 16) (by omega)
    have low := hexChar_ne_lineFeed (c.toNat % 16) (by omega)
    simp [heq, Ne.symm high, Ne.symm low]
  · rw [heq, List.mem_singleton]
    rintro rfl
    exact absurd large (by decide)

/-- An escaped character is read as itself. -/
theorem scanString?_escapeChar (c : Char) (cs : List Char) :
    scanString? (escapeChar c ++ cs) =
      (scanString? cs).map fun p => (.char c :: p.1, p.2) := by
  rcases escapeChar_cases c with ⟨e, heq, he, -⟩ | ⟨heq, small⟩ | ⟨heq, hquote, hslash, large⟩
  · have hu : e ≠ 'u' := by rintro rfl; simp [escaped?] at he
    rw [heq]
    cases hs : scanString? cs <;> simp [scanString?, hu, he, hs]
  · have hcode := hexCode?_hexChar c.toNat small
    have hpiece : Piece.ofCode c.toNat = .char c := by
      have : ¬ 0xD800 ≤ c.toNat := by omega
      have : ¬ 0xDC00 ≤ c.toNat := by omega
      simp [Piece.ofCode, *]
    rw [heq]
    cases hs : scanString? cs <;> simp [scanString?, hcode, hpiece, hs]
  · have : ¬ c.toNat < 32 := by omega
    rw [heq]
    cases hs : scanString? cs <;> simp [scanString?, hslash, this, hs]

theorem scanString?_escaped (s rest : List Char) :
    scanString? (s.flatMap escapeChar ++ '"' :: rest) = some (s.map Piece.char, rest) := by
  induction s with
  | nil => rfl
  | cons c s ih =>
    rw [List.flatMap_cons, List.append_assoc, scanString?_escapeChar, ih]
    rfl

theorem joinPieces?_chars (s : List Char) : joinPieces? (s.map Piece.char) = some s := by
  induction s with
  | nil => rfl
  | cons c s ih => simp [joinPieces?, ih]

theorem stringOf?_chars (s : String) : stringOf? (s.toList.map Piece.char) = some s := by
  simp [stringOf?, joinPieces?_chars]

theorem quotedChars_lineFeed (s : String) : '\n' ∉ quotedChars s := by
  simp only [quotedChars, List.mem_cons, List.mem_append, List.mem_flatMap, not_or]
  refine ⟨by decide, ?_, by decide, by simp⟩
  rintro ⟨c, -, hc⟩
  exact escapeChar_lineFeed c hc

/-! ## Numbers of a value -/

mutual

/-- All numbers of the value have the property. -/
def EveryNumber (P : Number → Prop) : Json → Prop
  | .num n => P n
  | .arr xs => EveryNumberItems P xs
  | .obj ms => EveryNumberMembers P ms
  | _ => True
termination_by structural v => v

def EveryNumberItems (P : Number → Prop) : List Json → Prop
  | [] => True
  | x :: xs => x.EveryNumber P ∧ EveryNumberItems P xs
termination_by structural xs => xs

def EveryNumberMembers (P : Number → Prop) : List (String × Json) → Prop
  | [] => True
  | (_, x) :: ms => x.EveryNumber P ∧ EveryNumberMembers P ms
termination_by structural ms => ms

end

/-- The doubles of the value read back. -/
def FloatsReadBack (v : Json) : Prop :=
  v.EveryNumber fun
    | .int _ => True
    | .float x => x.ReadsBack

mutual

theorem everyNumber_legible (v : Json) (canonical : v.Canonical) (floats : v.FloatsReadBack) :
    v.EveryNumber Number.Legible := by
  cases v with
  | num n =>
    cases n with
    | int i => exact int_legible canonical
    | float x => exact float_legible floats
  | arr xs => exact everyNumberItems_legible xs canonical floats
  | obj ms => exact everyNumberMembers_legible ms canonical.2 floats
  | null | bool _ | str _ => trivial
termination_by structural v

theorem everyNumberItems_legible (xs : List Json) (canonical : CanonicalItems xs)
    (floats : EveryNumberItems (fun | .int _ => True | .float x => x.ReadsBack) xs) :
    EveryNumberItems Number.Legible xs := by
  cases xs with
  | nil => trivial
  | cons x xs =>
    exact ⟨everyNumber_legible x canonical.1 floats.1,
      everyNumberItems_legible xs canonical.2 floats.2⟩
termination_by structural xs

theorem everyNumberMembers_legible (ms : List (String × Json)) (canonical : CanonicalMembers ms)
    (floats : EveryNumberMembers (fun | .int _ => True | .float x => x.ReadsBack) ms) :
    EveryNumberMembers Number.Legible ms := by
  cases ms with
  | nil => trivial
  | cons m ms =>
    obtain ⟨k, x⟩ := m
    exact ⟨everyNumber_legible x canonical.1 floats.1,
      everyNumberMembers_legible ms canonical.2 floats.2⟩
termination_by structural ms

end

/-! ## Line feeds -/

theorem numberChars_lineFeed (n : Number) : '\n' ∉ n.chars := fun h =>
  absurd (number_unbroken n '\n' h) (by decide)

mutual

/-- The text of a value is one line. -/
theorem chars_lineFeed (v : Json) : '\n' ∉ v.chars := by
  match v with
  | .null => decide
  | .bool true => decide
  | .bool false => decide
  | .num n => exact numberChars_lineFeed n
  | .str s => exact quotedChars_lineFeed s
  | .arr [] => decide
  | .arr (x :: xs) =>
    simp only [chars, List.mem_cons, List.mem_append, not_or]
    exact ⟨by decide, chars_lineFeed x, itemsChars_lineFeed xs⟩
  | .obj [] => decide
  | .obj ((k, x) :: ms) =>
    simp only [chars, List.mem_cons, List.mem_append, not_or]
    exact ⟨by decide, quotedChars_lineFeed k, by decide, chars_lineFeed x,
      membersChars_lineFeed ms⟩
termination_by structural v

theorem itemsChars_lineFeed (xs : List Json) : '\n' ∉ itemsChars xs := by
  match xs with
  | [] => decide
  | x :: xs =>
    simp only [itemsChars, List.mem_cons, List.mem_append, not_or]
    exact ⟨by decide, chars_lineFeed x, itemsChars_lineFeed xs⟩
termination_by structural xs

theorem membersChars_lineFeed (ms : List (String × Json)) : '\n' ∉ membersChars ms := by
  match ms with
  | [] => decide
  | (k, x) :: ms =>
    simp only [membersChars, List.mem_cons, List.mem_append, not_or]
    exact ⟨by decide, quotedChars_lineFeed k, by decide, chars_lineFeed x,
      membersChars_lineFeed ms⟩
termination_by structural ms

end

theorem chars_ne_nil (v : Json) : v.chars ≠ [] := by
  match v with
  | .num n => exact number_ne_nil n
  | .null | .bool true | .bool false | .str _ => simp [chars, quotedChars]
  | .arr [] | .arr (_ :: _) | .obj [] | .obj ((_, _) :: _) => simp [chars]

/-! ## Values -/

theorem ends_itemsChars (xs : List Json) (rest : List Char) :
    Literal.Ends (itemsChars xs ++ rest) := by
  cases xs <;> exact ⟨by decide, by decide, by decide, by decide⟩

theorem ends_membersChars (ms : List (String × Json)) (rest : List Char) :
    Literal.Ends (membersChars ms ++ rest) := by
  cases ms <;> exact ⟨by decide, by decide, by decide, by decide⟩

/-- A character that begins a literal is none of those that begin something else. -/
theorem Literal.scan?_head_ne {c : Char} {cs r : List Char} {l : Literal}
    (h : scan? (c :: cs) = some (l, r)) {d : Char} (digit : digit? d = none) (sign : d ≠ '-') :
    c ≠ d := by
  rintro rfl
  rcases scan?_head h with rfl | hc
  · exact sign rfl
  · simp [digit] at hc

theorem Literal.scan?_head_not_blank {c : Char} {cs r : List Char} {l : Literal}
    (h : scan? (c :: cs) = some (l, r)) : isBlank c = false := by
  have other {d : Char} (digit : digit? d = none) (sign : d ≠ '-') := scan?_head_ne h digit sign
  simp [isBlank, other (d := ' ') (by decide) (by decide),
    other (d := '\t') (by decide) (by decide), other (d := '\n') (by decide) (by decide),
    other (d := '\r') (by decide) (by decide)]

/-- The text of a value begins neither with a blank nor with the end of an array. -/
theorem chars_head (v : Json) (legible : v.EveryNumber Number.Legible) :
    ∃ c cs, v.chars = c :: cs ∧ isBlank c = false ∧ c ≠ ']' := by
  match v with
  | .null => exact ⟨_, _, rfl, by decide⟩
  | .bool true => exact ⟨_, _, rfl, by decide⟩
  | .bool false => exact ⟨_, _, rfl, by decide⟩
  | .num n =>
    obtain ⟨l, hscan, -⟩ : n.Legible := legible
    rw [chars]
    cases hn : n.chars with
    | nil =>
      simp [hn, Literal.scan?, Literal.scanUnsigned?, Literal.spanWhole?, spanDigits] at hscan
    | cons c cs =>
      rw [hn] at hscan
      exact ⟨c, cs, rfl, Literal.scan?_head_not_blank hscan,
        Literal.scan?_head_ne hscan (by decide) (by decide)⟩
  | .str s => exact ⟨_, _, rfl, by decide⟩
  | .arr [] => exact ⟨_, _, rfl, by decide⟩
  | .arr (x :: xs) => exact ⟨_, _, rfl, by decide⟩
  | .obj [] => exact ⟨_, _, rfl, by decide⟩
  | .obj ((k, x) :: ms) => exact ⟨_, _, rfl, by decide⟩

namespace Draft

theorem takeValue?_literal {n : Nat} {cs rest : List Char} {l : Literal}
    (h : Literal.scan? cs = some (l, rest)) :
    takeValue? (n + 1) cs = some (.num l.number?, rest) := by
  cases cs with
  | nil => simp [Literal.scan?, Literal.scanUnsigned?, Literal.spanWhole?, spanDigits] at h
  | cons c cs =>
    have hskip : skipBlanks (c :: cs) = c :: cs := by
      simp [skipBlanks, Literal.scan?_head_not_blank h]
    have other {d : Char} (digit : digit? d = none) (sign : d ≠ '-') :=
      Literal.scan?_head_ne h digit sign
    simp [takeValue?, hskip, h, other (d := 'n') (by decide) (by decide),
      other (d := 't') (by decide) (by decide), other (d := 'f') (by decide) (by decide),
      other (d := '"') (by decide) (by decide), other (d := '[') (by decide) (by decide),
      other (d := '\x7b') (by decide) (by decide)]

theorem takeMember?_chars (k : String) {x : Json} {n : Nat} {rest : List Char}
    (hx : takeValue? n (x.chars ++ rest) = some (ofJson x, rest)) :
    takeMember? (n + 1) (quotedChars k ++ ':' :: (x.chars ++ rest)) =
      some ((some k, ofJson x), rest) := by
  have hscan := scanString?_escaped k.toList (':' :: (x.chars ++ rest))
  simp [quotedChars, takeMember?, skipBlanks, isBlank, hscan, stringOf?_chars, hx]

mutual

/-- The text of a value reads back as its draft, whatever follows it. The counter
lasts as long as it is no less than the length of the text. -/
theorem takeValue?_chars (v : Json) (legible : v.EveryNumber Number.Legible) (n : Nat)
    (enough : v.chars.length ≤ n) {rest : List Char} (ends : Literal.Ends rest) :
    takeValue? n (v.chars ++ rest) = some (ofJson v, rest) := by
  match v, n with
  | v, 0 =>
    obtain ⟨c, cs, hc, -⟩ := chars_head v legible
    simp [hc] at enough
  | .null, n + 1 => simp [chars, takeValue?, skipBlanks, isBlank, ofJson]
  | .bool true, n + 1 => simp [chars, takeValue?, skipBlanks, isBlank, ofJson]
  | .bool false, n + 1 => simp [chars, takeValue?, skipBlanks, isBlank, ofJson]
  | .num m, n + 1 =>
    obtain ⟨l, hscan, hnumber⟩ : m.Legible := legible
    have happ : Literal.scan? (m.chars ++ rest) = some (l, rest) := Literal.scan?_append ends hscan
    rw [chars, takeValue?_literal happ, hnumber, ofJson]
  | .str s, n + 1 =>
    have hscan := scanString?_escaped s.toList rest
    simp [chars, quotedChars, takeValue?, skipBlanks, isBlank, ofJson, hscan, stringOf?_chars]
  | .arr [], n + 1 => simp [chars, takeValue?, skipBlanks, isBlank, ofJson, ofItems]
  | .arr (x :: xs), n + 1 =>
    simp only [chars, List.length_cons, List.length_append] at enough
    have hx := takeValue?_chars x legible.1 n (by omega) (ends_itemsChars xs rest)
    have hxs := takeItems?_chars xs legible.2 n (by omega) rest
    obtain ⟨c, cs, hc, hblank, hclose⟩ := chars_head x legible.1
    rw [hc] at hx
    simp_all [chars, takeValue?, skipBlanks, isBlank, ofJson, ofItems]
  | .obj [], n + 1 => simp [chars, takeValue?, skipBlanks, isBlank, ofJson, ofMembers]
  | .obj ((k, x) :: ms), n + 1 =>
    simp only [chars, List.length_cons, List.length_append] at enough
    obtain ⟨m, hn⟩ : ∃ m, n = m + 1 := ⟨n - 1, by omega⟩
    have hx := takeValue?_chars x legible.1 m (by omega) (ends_membersChars ms rest)
    have hm := takeMember?_chars k hx
    have hms := takeMembers?_chars ms legible.2 n (by omega) rest
    rw [← hn] at hm
    simp only [quotedChars, List.cons_append, List.append_assoc, List.nil_append] at hm
    simp [chars, quotedChars, takeValue?, skipBlanks, isBlank, ofJson, ofMembers, hm, hms]
termination_by structural v

theorem takeItems?_chars (xs : List Json) (legible : EveryNumberItems Number.Legible xs) (n : Nat)
    (enough : (itemsChars xs).length ≤ n) (rest : List Char) :
    takeItems? n (itemsChars xs ++ rest) = some (ofItems xs, rest) := by
  match xs, n with
  | [], 0 => simp [itemsChars] at enough
  | _ :: _, 0 => simp [itemsChars] at enough
  | [], n + 1 => simp [itemsChars, takeItems?, skipBlanks, isBlank, ofItems]
  | x :: xs, n + 1 =>
    simp only [itemsChars, List.length_cons, List.length_append] at enough
    have hx := takeValue?_chars x legible.1 n (by omega) (ends_itemsChars xs rest)
    have hxs := takeItems?_chars xs legible.2 n (by omega) rest
    simp [itemsChars, takeItems?, skipBlanks, isBlank, ofItems, hx, hxs]
termination_by structural xs

theorem takeMembers?_chars (ms : List (String × Json))
    (legible : EveryNumberMembers Number.Legible ms) (n : Nat)
    (enough : (membersChars ms).length ≤ n) (rest : List Char) :
    takeMembers? n (membersChars ms ++ rest) = some (ofMembers ms, rest) := by
  match ms, n with
  | [], 0 => simp [membersChars] at enough
  | (_, _) :: _, 0 => simp [membersChars] at enough
  | [], n + 1 => simp [membersChars, takeMembers?, skipBlanks, isBlank, ofMembers]
  | (k, x) :: ms, n + 1 =>
    simp only [membersChars, List.length_cons, List.length_append] at enough
    obtain ⟨m, hn⟩ : ∃ m, n = m + 1 := ⟨n - 1, by omega⟩
    have hx := takeValue?_chars x legible.1 m (by omega) (ends_membersChars ms rest)
    have hm := takeMember?_chars k hx
    have hms := takeMembers?_chars ms legible.2 n (by omega) rest
    rw [← hn] at hm
    simp [membersChars, takeMembers?, skipBlanks, isBlank, ofMembers, hm, hms]
termination_by structural ms

end

/-- The whole text of a value reads back as its draft. -/
theorem parse?_chars {v : Json} (legible : v.EveryNumber Number.Legible) :
    parse? v.chars = some (ofJson v) := by
  have htake : takeValue? (v.chars.length + 1) v.chars = some (ofJson v, []) := by
    have ends : Literal.Ends [] := trivial
    simpa using takeValue?_chars v legible (v.chars.length + 1) (by omega) ends
  simp [parse?, htake, skipBlanks]

mutual

/-- The draft of a value denotes that value with the names in order, however they stand. -/
theorem json?_ofJson_sorted (v : Json) {room : Nat} (fits : v.depth ≤ room) :
    json? room (ofJson v) = some v.sorted := by
  cases v with
  | null | bool _ | num _ | str _ => rfl
  | arr xs =>
    simp only [depth] at fits
    have hroom : ¬ room = 0 := by omega
    have hxs := jsonItems?_ofItems xs (Nat.le_sub_one_of_lt fits)
    simp [ofJson, json?, hroom, hxs, sorted]
  | obj ms =>
    simp only [depth] at fits
    have hroom : ¬ room = 0 := by omega
    have hms := jsonMembers?_ofMembers ms (Nat.le_sub_one_of_lt fits)
    simp [ofJson, json?, hroom, hms, sorted]
termination_by structural v

theorem jsonItems?_ofItems (xs : List Json) {room : Nat} (fits : depthItems xs ≤ room) :
    jsonItems? room (ofItems xs) = some (sortedItems xs) := by
  cases xs with
  | nil => rfl
  | cons x xs =>
    simp only [depthItems] at fits
    have hx := json?_ofJson_sorted x (Nat.max_le.mp fits).1
    have hxs := jsonItems?_ofItems xs (Nat.max_le.mp fits).2
    simp [ofItems, jsonItems?, sortedItems, hx, hxs]
termination_by structural xs

theorem jsonMembers?_ofMembers (ms : List (String × Json)) {room : Nat}
    (fits : depthMembers ms ≤ room) :
    jsonMembers? room (ofMembers ms) = some (sortedMembers ms) := by
  cases ms with
  | nil => rfl
  | cons m ms =>
    obtain ⟨k, x⟩ := m
    simp only [depthMembers] at fits
    have hx := json?_ofJson_sorted x (Nat.max_le.mp fits).1
    have hms := jsonMembers?_ofMembers ms (Nat.max_le.mp fits).2
    simp [ofMembers, jsonMembers?, sortedMembers, hx, hms]
termination_by structural ms

end

end Draft

mutual

/-- Where names ascend already, sorting moves nothing. -/
theorem sorted_of_canonical (v : Json) (canonical : v.Canonical) : v.sorted = v := by
  cases v with
  | null | bool _ | num _ | str _ => rfl
  | arr xs => rw [sorted, sortedItems_of_canonical xs canonical]
  | obj ms =>
    rw [sorted, sortedMembers_of_canonical ms canonical.2, object,
      Assoc.ofListSorted_of_ascending canonical.1]
termination_by structural v

theorem sortedItems_of_canonical (xs : List Json) (canonical : CanonicalItems xs) :
    sortedItems xs = xs := by
  cases xs with
  | nil => rfl
  | cons x xs =>
    rw [sortedItems, sorted_of_canonical x canonical.1, sortedItems_of_canonical xs canonical.2]
termination_by structural xs

theorem sortedMembers_of_canonical (ms : List (String × Json)) (canonical : CanonicalMembers ms) :
    sortedMembers ms = ms := by
  match ms with
  | [] => rfl
  | (k, x) :: ms =>
    rw [sortedMembers, sorted_of_canonical x canonical.1,
      sortedMembers_of_canonical ms canonical.2]
termination_by structural ms

end

theorem Draft.json?_ofJson (v : Json) (canonical : v.Canonical) {room : Nat}
    (fits : v.depth ≤ room) : json? room (ofJson v) = some v := by
  rw [json?_ofJson_sorted v fits, sorted_of_canonical v canonical]

theorem readsBack_iff_legible {x : Double} : x.ReadsBack ↔ Number.Legible (.float x) := by
  constructor
  · exact float_legible
  · intro legible
    have hparse := Draft.parse?_chars (v := .num (.float x)) legible
    rw [Double.ReadsBack, parseChars?, ← Number.chars, ← chars, hparse]
    rfl

/-- What a document may be: names in order, integers in range, no deeper than a
document can nest, and doubles that read back. -/
structure IsDocument (v : Json) : Prop where
  canonical : v.Canonical
  nesting : v.depth ≤ nestingLimit
  floats : v.FloatsReadBack

/-- A document reads back as itself. -/
theorem parseChars?_chars {v : Json} (doc : v.IsDocument) : parseChars? v.chars = some v := by
  have hparse := Draft.parse?_chars (everyNumber_legible v doc.canonical doc.floats)
  simp [parseChars?, hparse, Draft.json?_ofJson v doc.canonical doc.nesting]

end TopicClient.Json
