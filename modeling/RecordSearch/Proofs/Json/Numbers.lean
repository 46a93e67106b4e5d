import RecordSearch.Json.Reader
import Mathlib.Algebra.Ring.Int.Defs
import Mathlib.Data.List.TakeWhile

/-!
Which numbers come back from their text. Every integer that can be read does
(`readsBack_of_inRange`). A binary64 number need not, since a decimal is read with more than one
rounding; whether it does can be computed.
-/

namespace RecordSearch.Number

open RecordSearch.Text RecordSearch.Json RecordSearch.Decimal

/-- Reading the text of the number gives the number. -/
def ReadsBack (x : Number) : Prop := read? x.text.toList = some x

instance (x : Number) : Decidable x.ReadsBack := inferInstanceAs (Decidable (_ = _))

/-- The integers that are read as such, which are those of 64 bits, signed or not. -/
def InRange : Number → Prop
  | .integer n => -2 ^ 63 ≤ n ∧ n < 2 ^ 64
  | .real _ _ => True

/-! ## The characters of a number -/

theorem isNumberChar_of_isDigit {c : Char} (h : c.isDigit = true) : isNumberChar c = true := by
  simp [isNumberChar, h]

theorem isDigit_of_mem_digitsOf {n : Nat} {c : Char} (h : c ∈ digitsOf n) : c.isDigit = true :=
  Nat.isDigit_of_mem_toDigits (by decide) (by decide) h

section

variable {ds : List Char} (hds : ∀ c ∈ ds, c.isDigit = true)

include hds

theorem isNumberChar_positional (leading : Int) :
    ∀ c ∈ positional ds leading, isNumberChar c = true := by
  have hdigit : ∀ c ∈ ds, isNumberChar c = true := fun c hc => isNumberChar_of_isDigit (hds c hc)
  have hzeros : ∀ n, ∀ c ∈ List.replicate n '0', isNumberChar c = true := by
    intro n c hc
    rw [List.eq_of_mem_replicate hc]
    decide
  unfold positional
  split
  · simp only [List.forall_mem_append]
    exact ⟨⟨by simp [isNumberChar], hzeros _⟩, hdigit⟩
  · dsimp only
    split
    · simp only [List.forall_mem_append]
      exact ⟨⟨hdigit, hzeros _⟩, by simp [isNumberChar]⟩
    · simp only [List.forall_mem_append, List.forall_mem_cons]
      exact ⟨fun c hc => hdigit c (List.mem_of_mem_take hc), by decide,
        fun c hc => hdigit c (List.mem_of_mem_drop hc)⟩

theorem isNumberChar_scientific (leading : Int) :
    ∀ c ∈ scientific ds leading, isNumberChar c = true := by
  have hdigit : ∀ c ∈ ds, isNumberChar c = true := fun c hc => isNumberChar_of_isDigit (hds c hc)
  have hexponent : ∀ c ∈ 'e' :: (if leading < 0 then '-' else '+') :: digitsOf leading.natAbs,
      isNumberChar c = true := by
    simp only [List.forall_mem_cons]
    refine ⟨by decide, ?_, fun c hc => isNumberChar_of_isDigit (isDigit_of_mem_digitsOf hc)⟩
    split <;> decide
  unfold scientific
  rw [List.forall_mem_append]
  refine ⟨?_, hexponent⟩
  match ds, hdigit with
  | [], _ => exact List.forall_mem_nil _
  | [d], hdigit => exact hdigit
  | d :: e :: rest, hdigit =>
    rw [List.forall_mem_cons] at hdigit
    simp only [List.forall_mem_cons]
    exact ⟨hdigit.1, by decide, List.forall_mem_cons.mp hdigit.2⟩

/-- The first digit comes first, or a zero does. -/
theorem exists_cons_positional (hne : ds ≠ []) (leading : Int) :
    ∃ c cs, positional ds leading = c :: cs ∧ c.isDigit = true := by
  obtain ⟨d, rest, rfl⟩ := List.exists_cons_of_ne_nil hne
  have hd : d.isDigit = true := hds d (List.mem_cons_self ..)
  unfold positional
  split
  · exact ⟨'0', _, rfl, rfl⟩
  · dsimp only
    split
    · exact ⟨d, _, rfl, hd⟩
    · exact ⟨d, _, rfl, hd⟩

theorem exists_cons_scientific (hne : ds ≠ []) (leading : Int) :
    ∃ c cs, scientific ds leading = c :: cs ∧ c.isDigit = true := by
  match ds, hne with
  | [d], _ => exact ⟨d, _, rfl, hds d (List.mem_cons_self ..)⟩
  | d :: e :: rest, _ => exact ⟨d, _, rfl, hds d (List.mem_cons_self ..)⟩

end

theorem isNumberChar_magnitudeText (x : Binary64) :
    ∀ c ∈ magnitudeText x, isNumberChar c = true := by
  unfold magnitudeText
  split
  · simp [isNumberChar]
  · dsimp only
    split
    · exact isNumberChar_positional (fun c hc => isDigit_of_mem_digitsOf hc) _
    · exact isNumberChar_scientific (fun c hc => isDigit_of_mem_digitsOf hc) _

theorem exists_cons_magnitudeText (x : Binary64) :
    ∃ c cs, magnitudeText x = c :: cs ∧ c.isDigit = true := by
  unfold magnitudeText
  split
  · exact ⟨'0', _, rfl, rfl⟩
  · dsimp only
    split
    · exact exists_cons_positional (fun c hc => isDigit_of_mem_digitsOf hc) Nat.toDigits_ne_nil _
    · exact exists_cons_scientific (fun c hc => isDigit_of_mem_digitsOf hc) Nat.toDigits_ne_nil _

theorem exists_cons_digitsOf (n : Nat) : ∃ c cs, digitsOf n = c :: cs ∧ c.isDigit = true := by
  obtain ⟨c, cs, h⟩ : ∃ c cs, digitsOf n = c :: cs :=
    List.exists_cons_of_ne_nil Nat.toDigits_ne_nil
  exact ⟨c, cs, h, isDigit_of_mem_digitsOf (h ▸ List.mem_cons_self ..)⟩

/-- A sign or a digit, and then characters of numbers only. -/
theorem exists_cons_text (x : Number) :
    ∃ c cs, x.text.toList = c :: cs ∧ (c = '-' ∨ c.isDigit = true) ∧
      ∀ d ∈ cs, isNumberChar d = true := by
  have hsigned : ∀ (negative : Bool) (cs : List Char), (∀ c ∈ cs, isNumberChar c = true) →
      (∃ c rest, cs = c :: rest ∧ c.isDigit = true) →
      ∃ c rest, (if negative then ['-'] else []) ++ cs = c :: rest ∧
        (c = '-' ∨ c.isDigit = true) ∧ ∀ d ∈ rest, isNumberChar d = true := by
    intro negative cs hall hcons
    cases negative with
    | true => exact ⟨'-', cs, rfl, .inl rfl, hall⟩
    | false =>
      obtain ⟨c, rest, rfl, hc⟩ := hcons
      exact ⟨c, rest, rfl, .inr hc, fun d hd => hall d (List.mem_cons_of_mem _ hd)⟩
  cases x with
  | integer n =>
    have hinteger := hsigned (n < 0) (digitsOf n.natAbs)
      (fun c hc => isNumberChar_of_isDigit (isDigit_of_mem_digitsOf hc)) (exists_cons_digitsOf _)
    simpa [text] using hinteger
  | real negative x =>
    have hreal := hsigned negative (magnitudeText x) (isNumberChar_magnitudeText x)
      (exists_cons_magnitudeText x)
    simpa [text] using hreal

/-! ## Integers -/

theorem le_ofDigitChars (ds : List Char) (s : Nat) : s ≤ Nat.ofDigitChars 10 ds s := by
  induction ds generalizing s with
  | nil => exact Nat.le_refl s
  | cons d ds ih =>
    have hrest := ih (10 * s + (d.toNat - '0'.toNat))
    simp only [Nat.ofDigitChars, List.foldl_cons] at hrest ⊢
    omega

/-- Digits that stay in the significand add up to their number. -/
theorem extendSignificand_of_le {ds : List Char} (hds : ∀ d ∈ ds, d.isDigit = true) {s : Nat}
    (h : Nat.ofDigitChars 10 ds s ≤ greatestSignificand) :
    extendSignificand s ds = (Nat.ofDigitChars 10 ds s, 0) := by
  induction ds generalizing s with
  | nil => rfl
  | cons d ds ih =>
    rw [List.forall_mem_cons] at hds
    have hnext : Nat.ofDigitChars 10 (d :: ds) s =
        Nat.ofDigitChars 10 ds (s * 10 + digitValue d) := by
      rw [digitValue_of_isDigit hds.1, Nat.mul_comm]
      rfl
    rw [hnext] at h ⊢
    have hle := le_ofDigitChars ds (s * 10 + digitValue d)
    rw [extendSignificand, if_pos (by omega), ih hds.2 h]

theorem extendSignificand_le {ds : List Char} {s : Nat} (h : s ≤ greatestSignificand) :
    (extendSignificand s ds).1 ≤ greatestSignificand := by
  induction ds generalizing s with
  | nil => exact h
  | cons d ds ih =>
    rw [extendSignificand]
    split
    · exact ih (by assumption)
    · exact h

theorem head?_digitsOf_ne {n : Nat} (h : 0 < n) : (digitsOf n).head? ≠ some '0' := by
  induction n using Nat.strongRecOn with
  | ind n ih =>
    by_cases hsmall : n < 10
    · have hchar : ∀ m < 10, 0 < m → [Nat.digitChar m].head? ≠ some '0' := by decide
      rw [digitsOf, Nat.toDigits_of_lt_base hsmall]
      exact hchar n hsmall h
    · have hrest := ih (n / 10) (by omega) (by omega)
      rw [digitsOf, Nat.toDigits_of_base_le (by decide) (by omega), List.head?_append]
      obtain ⟨c, cs, hcs, -⟩ := exists_cons_digitsOf (n / 10)
      rw [hcs] at hrest
      rw [digitsOf] at hcs
      rw [hcs]
      exact hrest

theorem spanDigits_digitsOf (n : Nat) : spanDigits (digitsOf n) = (digitsOf n, []) := by
  have hall : ∀ c ∈ digitsOf n, c.isDigit = true := fun c hc => isDigit_of_mem_digitsOf hc
  rw [spanDigits, List.takeWhile_eq_self_iff.mpr hall, List.dropWhile_eq_nil_iff.mpr hall]

/-- The digits of a natural number, with a sign or without, are a literal. -/
theorem literal?_digitsOf (negative : Bool) (n : Nat) :
    literal? ((if negative then ['-'] else []) ++ digitsOf n) =
      some ⟨negative, digitsOf n, none, none⟩ := by
  have hspan := spanDigits_digitsOf n
  obtain ⟨c, cs, hcs, hc⟩ := exists_cons_digitsOf n
  have hzero : c = '0' → cs = [] := by
    rintro rfl
    rcases Nat.eq_zero_or_pos n with rfl | hpos
    · exact (List.cons.inj hcs).2.symm
    · exact absurd (by rw [hcs]; rfl) (head?_digitsOf_ne hpos)
  rw [hcs] at hspan ⊢
  cases negative with
  | true => simpa [literal?, hspan] using hzero
  | false =>
    have hne : c ≠ '-' := by
      rintro rfl
      cases hc
    simpa [literal?, hne, hspan] using hzero

theorem readsBack_of_inRange {n : Int} (h : (integer n).InRange) : (integer n).ReadsBack := by
  obtain ⟨hlow, hhigh⟩ := h
  have hsum : Nat.ofDigitChars 10 (digitsOf n.natAbs) 0 = n.natAbs := Nat.ofDigitChars_ten_toDigits
  have hfits : n.natAbs ≤ greatestSignificand := by
    have hgreatest : greatestSignificand = 2 ^ 64 - 1 := by decide
    omega
  have hextend : extendSignificand 0 (digitsOf n.natAbs) = (n.natAbs, 0) := by
    rw [extendSignificand_of_le (fun _ => isDigit_of_mem_digitsOf) (hsum.trans_le hfits), hsum]
  have htext : (text (integer n)).toList =
      (if decide (n < 0) then ['-'] else []) ++ digitsOf n.natAbs := by
    simp [text]
  rw [ReadsBack, read?, htext, literal?_digitsOf, Option.bind_some, ofLiteral?]
  simp only [hextend]
  by_cases hneg : n < 0
  · have hpow : Nat.pow 2 63 = 2 ^ 63 := rfl
    have hbound : n.natAbs ≠ 0 ∧ n.natAbs ≤ Nat.pow 2 63 := by omega
    have habs : -(n.natAbs : Int) = n := by omega
    simp only [hneg, hbound, habs, decide_true, ne_eq, not_false_eq_true, Bool.and_self, if_true]
    rfl
  · have habs : (n.natAbs : Int) = n := by omega
    simp only [hneg, habs, decide_false, Bool.not_false, if_true]
    rfl

theorem inRange_of_ofLiteral? {l : Literal} {x : Number} (h : ofLiteral? l = some x) :
    x.InRange := by
  have hsignificand : (extendSignificand 0 l.whole).1 ≤ greatestSignificand :=
    extendSignificand_le (by decide)
  have hgreatest : greatestSignificand = 2 ^ 64 - 1 := by decide
  have hreal : ∀ {negative : Bool} {magnitude : Option Binary64},
      magnitude.map (real negative) = some x → x.InRange := by
    intro negative magnitude hmap
    obtain ⟨y, -, rfl⟩ := Option.map_eq_some_iff.mp hmap
    trivial
  unfold ofLiteral? at h
  split at h
  rename_i s dropped heq
  rw [heq] at hsignificand
  split at h
  · split at h
    · cases h
      constructor
      · omega
      · omega
    · split at h
      · rename_i hbound
        have hpow : Nat.pow 2 63 = 2 ^ 63 := rfl
        simp only [Bool.and_eq_true, decide_eq_true_eq] at hbound
        cases h
        constructor
        · omega
        · omega
      · exact hreal h
  · exact hreal h

/-- Whatever is read has integers of 64 bits only. -/
theorem inRange_of_read? {cs : List Char} {x : Number} (h : read? cs = some x) : x.InRange := by
  obtain ⟨l, -, hl⟩ := Option.bind_eq_some_iff.mp h
  exact inRange_of_ofLiteral? hl

example : (integer (-9223372036854775808)).ReadsBack := by decide +kernel
example : ¬ (real false ⟨5167164841102875, -39⟩).ReadsBack := by decide +kernel

end RecordSearch.Number
