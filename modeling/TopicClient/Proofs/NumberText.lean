import TopicClient.Json.Printer
import TopicClient.Json.Draft

/-!
# Reading numbers back

The text of an integer is a literal that denotes it, whatever follows it that
no literal can go on with. Texts of numbers hold no blanks, so a double whose
text reads back as a whole reads back in front of other text too.
-/

namespace TopicClient.Json

theorem digit?_digitChar : ∀ d, d < 10 → digit? (digitChar d) = some d := by decide

theorem isBlank_digitChar : ∀ d, d < 10 → isBlank (digitChar d) = false := by decide

/-- The digits of a natural number: all below ten, and a zero leads only in zero itself. -/
theorem natChars_digits (n : Nat) :
    ∃ ds : List Nat, natChars n = ds.map digitChar ∧ (∀ d ∈ ds, d < 10) ∧
      digitsValue ds = n ∧ ds ≠ [] ∧ (ds = [0] ∨ ds.head? ≠ some 0) := by
  induction n using Nat.strongRecOn with
  | ind n ih =>
    rw [natChars, digitsReversed]
    by_cases small : n < 10
    · refine ⟨[n], by simp [small], by simpa using small, by simp [digitsValue], by simp, ?_⟩
      by_cases hz : n = 0
      · exact Or.inl (by rw [hz])
      · exact Or.inr (by simpa using hz)
    · obtain ⟨ds, htext, hlt, hvalue, hne, hlead⟩ := ih (n / 10) (by omega)
      have hpos : 0 < n / 10 := by omega
      refine ⟨ds ++ [n % 10], ?_, ?_, ?_, by simp, Or.inr ?_⟩
      · rw [natChars] at htext
        simp [small, htext]
      · intro d hd
        rcases List.mem_append.mp hd with hd | hd
        · exact hlt d hd
        · have : d = n % 10 := by simpa using hd
          omega
      · have : digitsValue (ds ++ [n % 10]) = digitsValue ds * 10 + n % 10 := by
          simp [digitsValue]
        omega
      · rcases hlead with rfl | hlead
        · simp [digitsValue] at hvalue
          omega
        · cases ds with
          | nil => exact absurd rfl hne
          | cons d ds => simpa using hlead

/-- No literal goes on with the text. -/
def Literal.Ends : List Char → Prop
  | [] => True
  | c :: _ => digit? c = none ∧ c ≠ '.' ∧ c ≠ 'e' ∧ c ≠ 'E'

theorem spanDigits_digits {ds : List Nat} (hlt : ∀ d ∈ ds, d < 10) {rest : List Char}
    (ends : Literal.Ends rest) : spanDigits (ds.map digitChar ++ rest) = (ds, rest) := by
  induction ds with
  | nil =>
    cases rest with
    | nil => rfl
    | cons c cs => simp [spanDigits, ends.1]
  | cons d ds ih =>
    have hd := digit?_digitChar d (hlt d (by simp))
    have hds := ih (fun e he => hlt e (by simp [he]))
    simp [spanDigits, hd, hds]

theorem spanDigits_append (cs : List Char) {rest : List Char} (ends : Literal.Ends rest) :
    spanDigits (cs ++ rest) = ((spanDigits cs).1, (spanDigits cs).2 ++ rest) := by
  induction cs with
  | nil =>
    cases rest with
    | nil => rfl
    | cons c cs => simp [spanDigits, ends.1]
  | cons c cs ih =>
    cases hd : digit? c with
    | none => simp [spanDigits, hd]
    | some d => simp [spanDigits, hd, ih]

namespace Literal

theorem spanWhole?_append {cs rest r : List Char} {ds : List Nat} (ends : Ends rest)
    (h : spanWhole? cs = some (ds, r)) : spanWhole? (cs ++ rest) = some (ds, r ++ rest) := by
  rw [spanWhole?] at h ⊢
  rw [spanDigits_append cs ends]
  rcases hs : spanDigits cs with ⟨_ | ⟨_ | d, _ | ⟨e, es⟩⟩, s⟩ <;> rw [hs] at h <;> grind

theorem spanFraction?_of_ne {c : Char} (h : c ≠ '.') (cs : List Char) :
    spanFraction? (c :: cs) = some (none, c :: cs) := by
  rw [spanFraction?]
  rintro rest heq
  exact h (List.cons.inj heq).1

theorem spanFraction?_append {cs rest r : List Char} {f : Option (List Nat)} (ends : Ends rest)
    (h : spanFraction? cs = some (f, r)) :
    spanFraction? (cs ++ rest) = some (f, r ++ rest) := by
  cases cs with
  | nil =>
    obtain ⟨rfl, rfl⟩ : none = f ∧ [] = r := by simpa [spanFraction?] using h
    cases rest with
    | nil => rfl
    | cons c cs => exact spanFraction?_of_ne ends.2.1 cs
  | cons c cs =>
    by_cases hdot : c = '.'
    · subst hdot
      simp only [spanFraction?, List.cons_append] at h ⊢
      rw [spanDigits_append cs ends]
      rcases hs : spanDigits cs with ⟨_ | ⟨d, ds⟩, s⟩ <;> simp_all
    · rw [spanFraction?_of_ne hdot] at h
      obtain ⟨rfl, rfl⟩ : none = f ∧ c :: cs = r := by simpa using h
      exact spanFraction?_of_ne hdot (cs ++ rest)

theorem spanSigned?_append {cs rest r : List Char} {e : Option Int} {negative : Bool}
    (ends : Ends rest) (h : spanSigned? negative cs = some (e, r)) :
    spanSigned? negative (cs ++ rest) = some (e, r ++ rest) := by
  rw [spanSigned?] at h ⊢
  rw [spanDigits_append cs ends]
  rcases hs : spanDigits cs with ⟨_ | ⟨d, ds⟩, s⟩ <;> simp_all

theorem spanExponent?_of_ne {c : Char} (h : ¬ (c = 'e' ∨ c = 'E')) (cs : List Char) :
    spanExponent? (c :: cs) = some (none, c :: cs) := by
  simp [spanExponent?, h]

theorem spanExponent?_append {cs rest r : List Char} {e : Option Int} (ends : Ends rest)
    (h : spanExponent? cs = some (e, r)) :
    spanExponent? (cs ++ rest) = some (e, r ++ rest) := by
  cases cs with
  | nil =>
    obtain ⟨rfl, rfl⟩ : none = e ∧ [] = r := by simpa [spanExponent?] using h
    cases rest with
    | nil => rfl
    | cons c cs => exact spanExponent?_of_ne (by simp [ends.2.2]) cs
  | cons c cs =>
    by_cases he : c = 'e' ∨ c = 'E'
    · simp only [spanExponent?, List.cons_append, if_pos he] at h ⊢
      cases cs with
      | nil => simp [spanSigned?, spanDigits] at h
      | cons d ds =>
        by_cases hplus : d = '+'
        · subst hplus
          have hd : spanSigned? false ds = some (e, r) := h
          exact spanSigned?_append ends hd
        · by_cases hminus : d = '-'
          · subst hminus
            have hd : spanSigned? true ds = some (e, r) := h
            exact spanSigned?_append ends hd
          · have hd : spanSigned? false (d :: ds) = some (e, r) := by
              split at h <;> simp_all
            have happ := spanSigned?_append ends hd
            rw [List.cons_append] at happ ⊢
            split <;> simp_all
    · rw [spanExponent?_of_ne he] at h
      obtain ⟨rfl, rfl⟩ : none = e ∧ c :: cs = r := by simpa using h
      exact spanExponent?_of_ne he (cs ++ rest)

theorem scanUnsigned?_append {cs rest r : List Char} {l : Literal} {negative : Bool}
    (ends : Ends rest) (h : scanUnsigned? negative cs = some (l, r)) :
    scanUnsigned? negative (cs ++ rest) = some (l, r ++ rest) := by
  simp only [scanUnsigned?, Option.bind_eq_bind, Option.bind_eq_some_iff, Prod.exists] at h ⊢
  obtain ⟨w, cs1, hw, f, cs2, hf, e, cs3, he, hl⟩ := h
  simp only [Option.some.injEq, Prod.mk.injEq] at hl
  obtain ⟨rfl, rfl⟩ := hl
  exact ⟨w, _, spanWhole?_append ends hw, f, _, spanFraction?_append ends hf, e, _,
    spanExponent?_append ends he, rfl⟩

theorem scan?_of_ne {c : Char} (h : c ≠ '-') (cs : List Char) :
    scan? (c :: cs) = scanUnsigned? false (c :: cs) := by
  rw [scan?]
  rintro rest heq
  exact h (List.cons.inj heq).1

/-- A literal is read alike whatever follows it. -/
theorem scan?_append {cs rest r : List Char} {l : Literal} (ends : Ends rest)
    (h : scan? cs = some (l, r)) : scan? (cs ++ rest) = some (l, r ++ rest) := by
  cases cs with
  | nil => simp [scan?, scanUnsigned?, spanWhole?, spanDigits] at h
  | cons c cs =>
    by_cases hminus : c = '-'
    · subst hminus
      have hcs : scanUnsigned? true cs = some (l, r) := h
      exact scanUnsigned?_append ends hcs
    · rw [scan?_of_ne hminus] at h
      rw [List.cons_append, scan?_of_ne hminus]
      exact scanUnsigned?_append ends h

/-- A literal starts with its sign or with a digit. -/
theorem scan?_head {c : Char} {cs r : List Char} {l : Literal}
    (h : scan? (c :: cs) = some (l, r)) : c = '-' ∨ (digit? c).isSome := by
  by_cases hminus : c = '-'
  · exact Or.inl hminus
  · apply Or.inr
    cases hd : digit? c with
    | some d => rfl
    | none => simp [scan?_of_ne hminus, scanUnsigned?, spanWhole?, spanDigits, hd] at h

theorem spanDigits_suffix (cs : List Char) : (spanDigits cs).2 <:+ cs := by
  induction cs with
  | nil => exact List.suffix_refl []
  | cons c cs ih =>
    cases hd : digit? c with
    | none => simp [spanDigits, hd]
    | some d =>
      simp only [spanDigits, hd]
      exact ih.trans (List.suffix_cons c cs)

theorem spanWhole?_suffix {cs r : List Char} {ds : List Nat}
    (h : spanWhole? cs = some (ds, r)) : r <:+ cs := by
  have hs := spanDigits_suffix cs
  rw [spanWhole?] at h
  rcases hd : spanDigits cs with ⟨_ | ⟨_ | d, _ | ⟨e, es⟩⟩, s⟩ <;> rw [hd] at h hs <;> grind

theorem spanFraction?_suffix {cs r : List Char} {f : Option (List Nat)}
    (h : spanFraction? cs = some (f, r)) : r <:+ cs := by
  rw [spanFraction?.eq_def] at h
  split at h
  · rename_i cs
    have hs := (spanDigits_suffix cs).trans (List.suffix_cons '.' cs)
    rcases hd : spanDigits cs with ⟨_ | ⟨d, ds⟩, s⟩ <;> rw [hd] at h hs <;> grind
  · obtain ⟨rfl, rfl⟩ : none = f ∧ cs = r := by simpa using h
    exact List.suffix_refl cs

theorem spanSigned?_suffix {cs r : List Char} {e : Option Int} {negative : Bool}
    (h : spanSigned? negative cs = some (e, r)) : r <:+ cs := by
  have hs := spanDigits_suffix cs
  rw [spanSigned?] at h
  rcases hd : spanDigits cs with ⟨_ | ⟨d, ds⟩, s⟩ <;> rw [hd] at h hs <;> grind

theorem spanExponent?_suffix {cs r : List Char} {e : Option Int}
    (h : spanExponent? cs = some (e, r)) : r <:+ cs := by
  rw [spanExponent?.eq_def] at h
  split at h
  · rename_i c cs
    split at h
    · have tail := List.suffix_cons c cs
      split at h
      · exact ((spanSigned?_suffix h).trans (List.suffix_cons _ _)).trans tail
      · exact ((spanSigned?_suffix h).trans (List.suffix_cons _ _)).trans tail
      · exact (spanSigned?_suffix h).trans tail
    · obtain ⟨rfl, rfl⟩ : none = e ∧ c :: cs = r := by simpa using h
      exact List.suffix_refl _
  · obtain ⟨rfl, rfl⟩ : none = e ∧ [] = r := by simpa using h
    exact List.suffix_refl []

theorem scanUnsigned?_suffix {cs r : List Char} {l : Literal} {negative : Bool}
    (h : scanUnsigned? negative cs = some (l, r)) : r <:+ cs := by
  simp only [scanUnsigned?, Option.bind_eq_bind, Option.bind_eq_some_iff, Prod.exists] at h
  obtain ⟨w, cs1, hw, f, cs2, hf, e, cs3, he, hl⟩ := h
  obtain ⟨-, rfl⟩ : _ ∧ cs3 = r := by simpa using hl
  exact ((spanExponent?_suffix he).trans (spanFraction?_suffix hf)).trans (spanWhole?_suffix hw)

theorem scan?_suffix {cs r : List Char} {l : Literal} (h : scan? cs = some (l, r)) :
    r <:+ cs := by
  rw [scan?.eq_def] at h
  split at h
  · exact (scanUnsigned?_suffix h).trans (List.suffix_cons _ _)
  · exact scanUnsigned?_suffix h

theorem scanUnsigned?_natChars (negative : Bool) (n : Nat) :
    ∃ ds, scanUnsigned? negative (natChars n) = some (⟨negative, ds, none, none⟩, []) ∧
      digitsValue ds = n := by
  obtain ⟨ds, htext, hlt, hvalue, hne, hlead⟩ := natChars_digits n
  have hspan : spanDigits (ds.map digitChar) = (ds, []) := by
    have ends : Literal.Ends [] := trivial
    simpa using spanDigits_digits hlt ends
  have hwhole : spanWhole? (ds.map digitChar) = some (ds, []) := by
    rw [spanWhole?, hspan]
    rcases hlead with rfl | hlead
    · rfl
    · rcases ds with _ | ⟨_ | d, ds⟩
      · exact absurd rfl hne
      · exact absurd rfl hlead
      · rfl
  exact ⟨ds, by simp [scanUnsigned?, htext, hwhole, spanFraction?, spanExponent?], hvalue⟩

end Literal

/-- The text of the number is a literal that denotes it. -/
def Number.Legible (n : Number) : Prop :=
  ∃ l, Literal.scan? n.chars = some (l, []) ∧ l.number? = some n

theorem scan?_natChars (n : Nat) :
    Literal.scan? (natChars n) = Literal.scanUnsigned? false (natChars n) := by
  obtain ⟨ds, htext, hlt, -, hne, -⟩ := natChars_digits n
  rw [htext]
  cases ds with
  | nil => exact absurd rfl hne
  | cons d ds =>
    have sign : ∀ d, d < 10 → digitChar d ≠ '-' := by decide
    exact Literal.scan?_of_ne (sign d (hlt d (by simp))) _

/-- An integer of a document is read back. -/
theorem int_legible {i : Int} (range : Number.InRange (.int i)) : Number.Legible (.int i) := by
  obtain ⟨low, high⟩ := range
  cases i with
  | ofNat n =>
    obtain ⟨ds, hscan, hvalue⟩ := Literal.scanUnsigned?_natChars false n
    have bound : n < UInt64.size := Int.ofNat_lt.mp high
    have hint : Literal.int? ⟨false, ds, none, none⟩ = some (Int.ofNat n) := by
      simp only [Literal.int?, Option.isSome_none, Bool.or_self, Bool.false_eq_true, if_false,
        hvalue]
      exact if_pos bound
    exact ⟨_, (scan?_natChars n).trans hscan, by rw [Literal.number?, hint]⟩
  | negSucc n =>
    obtain ⟨ds, hscan, hvalue⟩ := Literal.scanUnsigned?_natChars true (n + 1)
    have bound : n + 1 ≤ 0x8000000000000000 := by omega
    have hint : Literal.int? ⟨true, ds, none, none⟩ = some (Int.negSucc n) := by
      simp only [Literal.int?, Option.isSome_none, Bool.or_self, Bool.false_eq_true, if_false,
        if_true, hvalue]
      exact if_pos ⟨Nat.succ_pos n, bound⟩
    exact ⟨_, hscan, by rw [Literal.number?, hint]⟩

/-- No character is a blank. -/
def Unbroken (cs : List Char) : Prop := ∀ c ∈ cs, isBlank c = false

theorem natChars_unbroken (n : Nat) : Unbroken (natChars n) := by
  obtain ⟨ds, htext, hlt, -⟩ := natChars_digits n
  intro c hc
  rw [htext] at hc
  obtain ⟨d, hd, rfl⟩ := List.mem_map.mp hc
  exact isBlank_digitChar d (hlt d hd)

theorem zeros_unbroken (n : Nat) : Unbroken (zeros n) := by
  intro c hc
  rw [(List.mem_replicate.mp hc).2]
  rfl

theorem intChars_unbroken (i : Int) : Unbroken (intChars i) := by
  cases i with
  | ofNat n => exact natChars_unbroken n
  | negSucc n => exact List.forall_mem_cons.mpr ⟨rfl, natChars_unbroken (n + 1)⟩

theorem unbroken_nil : Unbroken [] := List.forall_mem_nil _

theorem unbroken_cons {c : Char} {cs : List Char} (hc : isBlank c = false)
    (hcs : Unbroken cs) : Unbroken (c :: cs) :=
  List.forall_mem_cons.mpr ⟨hc, hcs⟩

theorem unbroken_append {cs ds : List Char} (hcs : Unbroken cs) (hds : Unbroken ds) :
    Unbroken (cs ++ ds) :=
  List.forall_mem_append.mpr ⟨hcs, hds⟩

theorem decimal_unbroken (d : Decimal) : Unbroken d.chars := by
  have digits := natChars_unbroken d.coefficient
  have take (n : Nat) : Unbroken ((natChars d.coefficient).take n) :=
    fun c hc => digits c (List.mem_of_mem_take hc)
  have drop (n : Nat) : Unbroken ((natChars d.coefficient).drop n) :=
    fun c hc => digits c (List.mem_of_mem_drop hc)
  simp only [Decimal.chars]
  split
  · split
    · exact unbroken_append (unbroken_append digits (zeros_unbroken _))
        (unbroken_cons rfl (unbroken_cons rfl unbroken_nil))
    · split
      · exact unbroken_append (take _) (unbroken_cons rfl (drop _))
      · exact unbroken_cons rfl (unbroken_cons rfl (unbroken_append (zeros_unbroken _) digits))
  · refine unbroken_append ?_ (unbroken_cons rfl (unbroken_cons ?_ (natChars_unbroken _)))
    · split
      · rename_i ds e f rest heq
        rw [heq] at digits
        exact unbroken_cons (digits e (by simp))
          (unbroken_cons rfl fun c hc => digits c (List.mem_cons_of_mem e hc))
      · exact digits
    · split <;> rfl

theorem double_unbroken (x : Double) : Unbroken x.chars := by
  have body : Unbroken (if x.isZero then ['0', '.', '0'] else x.shortest.chars) := by
    split
    · exact unbroken_cons rfl (unbroken_cons rfl (unbroken_cons rfl unbroken_nil))
    · exact decimal_unbroken x.shortest
  simp only [Double.chars]
  split
  · exact unbroken_cons rfl body
  · exact body

theorem number_unbroken (n : Number) : Unbroken n.chars := by
  cases n with
  | int i => exact intChars_unbroken i
  | float x => exact double_unbroken x

theorem natChars_ne_nil (n : Nat) : natChars n ≠ [] := by
  obtain ⟨ds, htext, -, -, hne, -⟩ := natChars_digits n
  simp [htext, hne]

theorem number_ne_nil (n : Number) : n.chars ≠ [] := by
  match n with
  | .int (.ofNat n) => exact natChars_ne_nil n
  | .int (.negSucc n) => simp [Number.chars, intChars]
  | .float x =>
    have decimal : x.shortest.chars ≠ [] := by
      simp only [Decimal.chars]
      split
      · split
        · simp
        · split <;> simp
      · simp
    simp only [Number.chars, Double.chars]
    split
    · simp
    · split
      · simp
      · exact decimal

theorem skipBlanks_unbroken {cs : List Char} (h : Unbroken cs) : skipBlanks cs = cs := by
  cases cs with
  | nil => rfl
  | cons c cs => simp [skipBlanks, h c (by simp)]

namespace Draft

/-- Only a literal yields a number. -/
theorem takeValue?_num {n : Nat} {cs rest : List Char} {v : Option Number}
    (h : takeValue? n cs = some (.num v, rest)) :
    ∃ l, Literal.scan? (skipBlanks cs) = some (l, rest) ∧ l.number? = v := by
  cases n with
  | zero => simp [takeValue?] at h
  | succ n =>
    simp only [takeValue?] at h
    split at h
    case h_5 | h_6 => split at h <;> simp [Option.bind_eq_some_iff] at h
    case h_7 =>
      simp only [Option.bind_eq_bind, Option.bind_eq_some_iff, Prod.exists] at h
      obtain ⟨l, r, hscan, heq⟩ := h
      obtain ⟨rfl, rfl⟩ : l.number? = v ∧ r = rest := by simpa using heq
      exact ⟨l, hscan, rfl⟩
    all_goals simp [Option.bind_eq_some_iff] at h

theorem json?_eq_num {room : Nat} {d : Draft} {n : Number} (h : d.json? room = some (.num n)) :
    d = .num (some n) := by
  cases d <;> simp [json?, Json.object] at h
  rw [h]

end Draft

/-- The whole text of the double, read as a document, is the double. -/
def Double.ReadsBack (x : Double) : Prop := parseChars? x.chars = some (.num (.float x))

theorem float_legible {x : Double} (h : x.ReadsBack) : Number.Legible (.float x) := by
  obtain ⟨d, hparse, hjson⟩ := Option.bind_eq_some_iff.mp h
  obtain rfl := Draft.json?_eq_num hjson
  obtain ⟨⟨d, rest⟩, htake, hend⟩ := Option.bind_eq_some_iff.mp hparse
  simp only [Option.ite_none_right_eq_some, Option.some.injEq] at hend
  obtain ⟨hblank, rfl⟩ := hend
  obtain ⟨l, hscan, hnumber⟩ := Draft.takeValue?_num htake
  have unbroken := double_unbroken x
  rw [skipBlanks_unbroken unbroken] at hscan
  have hrest : Unbroken rest := fun c hc =>
    unbroken c ((Literal.scan?_suffix hscan).subset hc)
  rw [skipBlanks_unbroken hrest] at hblank
  obtain rfl : rest = [] := by simpa using hblank
  exact ⟨l, hscan, hnumber⟩

end TopicClient.Json
