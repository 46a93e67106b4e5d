import RecordSearch.Proofs.Text.Words
import RecordSearch.Text.Lowercase
import RecordSearch.Text.Punctuation

/-!
What lowering does to a text.

* `isLowered_of_mem_lowerChars`, `lowerChars_of_isLowered`: what it gives is in lower case, and what
  is in lower case stays as it is;
* `mem_lowerChars_iff`: blanks and punctuation stay, and nothing else becomes one;
* `lowerFrom_append_left`: a text is lowered in parts where no letter is in sight on either side of
  the cut, so at a blank (`lowerChars_append_blank`), and a part of a text without the marks around it
  is lowered as in its place (`lowerChars_infix`).

The tables are compared range by range, since they are too long to go through every character.
-/

namespace RecordSearch.Text

/-! ## Ranges -/

/-- No code point from `first` to `last` is in the ranges. -/
def apart (first last : Nat) (rs : List (Nat × Nat)) : Bool :=
  rs.all fun r => Nat.blt last r.1 || Nat.blt r.2 first

theorem not_inRanges_of_apart {first last : Nat} {rs : List (Nat × Nat)} {c : Char}
    (h : apart first last rs = true) (hfirst : first ≤ c.toNat) (hlast : c.toNat ≤ last) :
    inRanges c rs = false := by
  rw [Bool.eq_false_iff]
  intro hc
  obtain ⟨r, hr, hlow, hhigh⟩ := exists_of_inRanges hc
  have hapart := List.all_eq_true.mp h r hr
  simp only [Bool.or_eq_true, Nat.blt_eq] at hapart
  omega

theorem not_inRanges_of_inRanges {rs ss : List (Nat × Nat)} {c : Char} (hc : inRanges c rs = true)
    (h : (rs.all fun r => apart r.1 r.2 ss) = true) : inRanges c ss = false := by
  obtain ⟨r, hr, hlow, hhigh⟩ := exists_of_inRanges hc
  exact not_inRanges_of_apart (List.all_eq_true.mp h r hr) hlow hhigh

/-- One of the ranges, which ascend, reaches from `first` to `last`. -/
def covers (first last : Nat) : List (Nat × Nat) → Bool
  | [] => false
  | (a, b) :: rest => Nat.ble a first && (Nat.ble last b || covers first last rest)

theorem inRanges_of_covers {first last : Nat} {rs : List (Nat × Nat)} {c : Char}
    (h : covers first last rs = true) (hfirst : first ≤ c.toNat) (hlast : c.toNat ≤ last) :
    inRanges c rs = true := by
  induction rs with
  | nil => cases h
  | cons r rs ih =>
    obtain ⟨a, b⟩ := r
    simp only [covers, Bool.and_eq_true, Bool.or_eq_true, Nat.ble_eq] at h
    rw [inRanges, if_neg (by omega), Bool.or_eq_true, decide_eq_true_eq]
    rcases h.2 with hb | hrest
    · exact Or.inl (by omega)
    · exact Or.inr (ih hrest)

/-! ## Runs -/

namespace CaseRun

def lists (r : CaseRun) (n : Nat) : Bool :=
  Nat.ble r.first n && Nat.ble n r.last && Nat.beq ((n - r.first) % r.stride) 0

def points (r : CaseRun) : List Nat :=
  (List.range ((r.last - r.first) / r.stride + 1)).map (r.first + r.stride * ·)

def target (r : CaseRun) (n : Nat) : Nat := ((n : Int) + r.shift).toNat

/-- The other run lists nothing that `r` leads to. -/
def leaves (r other : CaseRun) : Bool :=
  Nat.blt (r.target r.last) other.first || Nat.blt other.last (r.target r.first) ||
    r.points.all fun n => !other.lists (r.target n)

theorem lists_iff {r : CaseRun} {n : Nat} :
    r.lists n = true ↔ r.first ≤ n ∧ n ≤ r.last ∧ (n - r.first) % r.stride = 0 := by
  simp [lists, and_assoc]

theorem mem_points {r : CaseRun} {n : Nat} (h : r.lists n = true) : n ∈ r.points := by
  obtain ⟨hfirst, hlast, hmod⟩ := lists_iff.mp h
  refine List.mem_map.mpr ⟨(n - r.first) / r.stride, ?_, ?_⟩
  · rw [List.mem_range, Nat.lt_succ_iff]
    exact Nat.div_le_div_right (by omega)
  · rw [Nat.mul_div_cancel' (Nat.dvd_of_mod_eq_zero hmod)]
    omega

theorem target_bounds {r : CaseRun} {n : Nat} (h : r.lists n = true) :
    r.target r.first ≤ r.target n ∧ r.target n ≤ r.target r.last := by
  obtain ⟨hfirst, hlast, -⟩ := lists_iff.mp h
  simp only [target]
  omega

theorem not_lists_of_leaves {r other : CaseRun} (h : r.leaves other = true) {n : Nat}
    (hn : r.lists n = true) : other.lists (r.target n) = false := by
  have hbounds := target_bounds hn
  simp only [leaves, Bool.or_eq_true, Nat.blt_eq, List.all_eq_true, Bool.not_eq_true'] at h
  rcases h with (h | h) | h
  · rw [Bool.eq_false_iff, ne_eq, lists_iff]
    omega
  · rw [Bool.eq_false_iff, ne_eq, lists_iff]
    omega
  · exact h n (mem_points hn)

end CaseRun

theorem caseShift_cases (n : Nat) (rs : List CaseRun) :
    caseShift n rs = 0 ∨ ∃ r ∈ rs, r.lists n = true ∧ caseShift n rs = r.shift := by
  induction rs with
  | nil => exact Or.inl rfl
  | cons r rs ih =>
    by_cases hfirst : n < r.first
    · simp [caseShift, hfirst]
    · by_cases hlast : n ≤ r.last
      · by_cases hmod : (n - r.first) % r.stride = 0
        · have hlists : r.lists n = true := CaseRun.lists_iff.mpr ⟨by omega, hlast, hmod⟩
          exact Or.inr ⟨r, List.mem_cons_self .., hlists, by simp [caseShift, hfirst, hlast, hmod]⟩
        · simp [caseShift, hfirst, hlast, hmod]
      · have heq : caseShift n (r :: rs) = caseShift n rs := by simp [caseShift, hfirst, hlast]
        rw [heq]
        rcases ih with h | ⟨r', hr', h⟩
        · exact Or.inl h
        · exact Or.inr ⟨r', List.mem_cons_of_mem _ hr', h⟩

theorem leaves_caseRuns : (caseRuns.all fun r => caseRuns.all r.leaves) = true := by
  decide +kernel

/-- What a run leads to are characters, neither blanks nor punctuation, and not the capital I with
a dot, which is in no run. -/
theorem apart_targets : (caseRuns.all fun r =>
    apart (r.target r.first) (r.target r.last)
      ((0x130, 0x130) :: (0xD800, 0xDFFF) :: blankRanges ++ punctuationRanges) &&
    Nat.blt (r.target r.last) 0x110000) = true := by
  decide +kernel

/-! ## One character -/

/-- The character is its own lower case. A capital sigma is not. -/
def IsLowered (c : Char) : Prop := lowerChar c = [c]

instance (c : Char) : Decidable (IsLowered c) := inferInstanceAs (Decidable (lowerChar c = [c]))

theorem IsLowered.ne_sigma {c : Char} (h : IsLowered c) : c ≠ 'Σ' := by
  rintro rfl
  revert h
  decide +kernel

theorem isLowered_of_caseShift {c : Char} (hdot : c ≠ 'İ')
    (hshift : caseShift c.toNat caseRuns = 0) : IsLowered c := by
  simp [IsLowered, lowerChar, hdot, hshift]

theorem isLowered_of_not_lists {c : Char} (hdot : c ≠ 'İ')
    (h : ∀ r ∈ caseRuns, r.lists c.toNat = false) : IsLowered c := by
  rcases caseShift_cases c.toNat caseRuns with hshift | ⟨r, hr, hlists, -⟩
  · exact isLowered_of_caseShift hdot hshift
  · rw [h r hr] at hlists
    cases hlists

/-- A character in lower case that is a mark of no kind. -/
structure IsSmallLetter (c : Char) : Prop where
  lowered : IsLowered c
  not_blank : isBlank c = false
  not_punctuation : isPunctuation c = false

instance (c : Char) : Decidable (IsSmallLetter c) :=
  decidable_of_iff (IsLowered c ∧ isBlank c = false ∧ isPunctuation c = false)
    ⟨fun h => ⟨h.1, h.2.1, h.2.2⟩, fun h => ⟨h.1, h.2, h.3⟩⟩

theorem isSmallLetter_target {r : CaseRun} (hr : r ∈ caseRuns) {n : Nat} (hn : r.lists n = true) :
    IsSmallLetter (Char.ofNat (r.target n)) := by
  obtain ⟨hlow, hhigh⟩ := CaseRun.target_bounds hn
  have htable := List.all_eq_true.mp apart_targets r hr
  rw [Bool.and_eq_true, Nat.blt_eq, List.cons_append, List.cons_append] at htable
  have hvalid : (Char.ofNat (r.target n)).toNat = r.target n := by
    have hsurrogate := htable.1
    simp only [apart, List.all_cons, Bool.and_eq_true, Bool.or_eq_true, Nat.blt_eq] at hsurrogate
    have hchar : (r.target n).isValidChar := by
      simp only [Nat.isValidChar]
      omega
    rw [Char.ofNat, dif_pos hchar]
    rfl
  have hmark : ∀ rs ⊆ (0x130, 0x130) :: (0xD800, 0xDFFF) :: (blankRanges ++ punctuationRanges),
      inRanges (Char.ofNat (r.target n)) rs = false := by
    intro rs hrs
    refine not_inRanges_of_apart (List.all_eq_true.mpr fun s hs => ?_)
      (hvalid ▸ hlow) (hvalid ▸ hhigh)
    exact List.all_eq_true.mp htable.1 s (hrs hs)
  refine ⟨isLowered_of_not_lists ?_ fun other hother => ?_, hmark _ ?_, hmark _ ?_⟩
  · intro hdot
    have := hmark [(0x130, 0x130)] (by simp)
    rw [hdot] at this
    revert this
    decide
  · rw [hvalid]
    exact CaseRun.not_lists_of_leaves
      (List.all_eq_true.mp (List.all_eq_true.mp leaves_caseRuns r hr) other hother) hn
  · intro s hs
    simp [hs]
  · intro s hs
    simp [hs]

theorem isSmallLetter_or_eq_of_mem_lowerChar {c d : Char} (h : d ∈ lowerChar c) :
    IsSmallLetter d ∨ d = c ∧ IsLowered c := by
  by_cases hdot : c = 'İ'
  · subst hdot
    rcases (by simpa [lowerChar] using h : d = 'i' ∨ d = '\u0307') with rfl | rfl
    · exact Or.inl (by decide +kernel)
    · exact Or.inl (by decide +kernel)
  · rw [lowerChar, if_neg hdot, List.mem_singleton] at h
    subst h
    rcases caseShift_cases c.toNat caseRuns with hshift | ⟨r, hr, hlists, hshift⟩
    · exact Or.inr ⟨by simp [hshift], isLowered_of_caseShift hdot hshift⟩
    · rw [hshift]
      exact Or.inl (isSmallLetter_target hr hlists)

/-! ## Marks -/

/-- Blanks and punctuation. -/
def isMark (c : Char) : Bool := isBlank c || isPunctuation c

theorem isMark_of_isBlank (c : Char) (h : isBlank c = true) : isMark c = true := by
  simp [isMark, h]

theorem isMark_of_isPunctuation (c : Char) (h : isPunctuation c = true) : isMark c = true := by
  simp [isMark, h]

theorem isMark_iff {c : Char} :
    isMark c = true ↔ inRanges c blankRanges = true ∨ inRanges c punctuationRanges = true := by
  simp [isMark, isBlank, isPunctuation]

theorem marks_apart_caseRuns : ((blankRanges ++ punctuationRanges).all fun s =>
    apart s.1 s.2 ((0x130, 0x130) :: caseRuns.map fun r => (r.first, r.last))) = true := by
  decide +kernel

theorem isLowered_of_isMark {c : Char} (h : isMark c = true) : IsLowered c := by
  obtain ⟨s, hs, hlow, hhigh⟩ : ∃ s ∈ blankRanges ++ punctuationRanges,
      s.1 ≤ c.toNat ∧ c.toNat ≤ s.2 := by
    rcases isMark_iff.mp h with h | h
    · obtain ⟨s, hs, hc⟩ := exists_of_inRanges h
      exact ⟨s, List.mem_append_left _ hs, hc⟩
    · obtain ⟨s, hs, hc⟩ := exists_of_inRanges h
      exact ⟨s, List.mem_append_right _ hs, hc⟩
  have hapart := List.all_eq_true.mp marks_apart_caseRuns s hs
  simp only [apart, List.all_cons, List.all_map, Bool.and_eq_true, List.all_eq_true,
    Function.comp_apply, Bool.or_eq_true, Nat.blt_eq] at hapart
  refine isLowered_of_not_lists ?_ fun r hr => ?_
  · rintro rfl
    have : 'İ'.toNat = 0x130 := rfl
    omega
  · rw [Bool.eq_false_iff, ne_eq, CaseRun.lists_iff]
    have := hapart.2 r hr
    omega

theorem not_isMark_of_isSmallLetter {c : Char} (h : IsSmallLetter c) : isMark c = false := by
  simp [isMark, h.not_blank, h.not_punctuation]

/-! ## Texts -/

theorem isLowered_of_mem_lowerFrom {before cs : List Char} {d : Char}
    (h : d ∈ lowerFrom before cs) : IsLowered d := by
  induction cs generalizing before with
  | nil => cases h
  | cons c cs ih =>
    rw [lowerFrom, List.mem_append] at h
    rcases h with h | h
    · split at h
      · rw [List.mem_singleton] at h
        subst h
        split <;> decide +kernel
      · rcases isSmallLetter_or_eq_of_mem_lowerChar h with h | ⟨rfl, h⟩
        · exact h.lowered
        · exact h
    · exact ih h

theorem isLowered_of_mem_lowerChars {cs : List Char} {d : Char} (h : d ∈ lowerChars cs) :
    IsLowered d :=
  isLowered_of_mem_lowerFrom h

theorem lowerFrom_of_isLowered {before cs : List Char} (h : ∀ c ∈ cs, IsLowered c) :
    lowerFrom before cs = cs := by
  induction cs generalizing before with
  | nil => rfl
  | cons c cs ih =>
    rw [List.forall_mem_cons] at h
    rw [lowerFrom, if_neg h.1.ne_sigma, h.1, ih h.2, List.singleton_append]

theorem lowerChars_of_isLowered {cs : List Char} (h : ∀ c ∈ cs, IsLowered c) :
    lowerChars cs = cs :=
  lowerFrom_of_isLowered h

theorem lowerChars_lowerChars (cs : List Char) : lowerChars (lowerChars cs) = lowerChars cs :=
  lowerChars_of_isLowered fun _ => isLowered_of_mem_lowerChars

theorem lowerChars_ne_nil {cs : List Char} (h : cs ≠ []) : lowerChars cs ≠ [] := by
  obtain ⟨c, rest, rfl⟩ := List.exists_cons_of_ne_nil h
  rw [lowerChars, lowerFrom, lowerChar]
  split <;> simp
  split <;> simp

theorem mem_lowerFrom_iff {before cs : List Char} {d : Char} (hd : isMark d = true) :
    d ∈ lowerFrom before cs ↔ d ∈ cs := by
  induction cs generalizing before with
  | nil => simp [lowerFrom]
  | cons c cs ih =>
    rw [lowerFrom, List.mem_append, List.mem_cons, ih]
    refine or_congr_left ⟨fun h => ?_, ?_⟩
    · split at h
      · have hsigma : isMark 'ς' = false ∧ isMark 'σ' = false := by decide +kernel
        rw [List.mem_singleton] at h
        subst h
        split at hd <;> simp [hsigma] at hd
      · rcases isSmallLetter_or_eq_of_mem_lowerChar h with h | ⟨h, -⟩
        · rw [not_isMark_of_isSmallLetter h] at hd
          cases hd
        · exact h
    · rintro rfl
      have hlowered := isLowered_of_isMark hd
      rw [if_neg hlowered.ne_sigma, hlowered]
      exact List.mem_singleton_self d

/-- Lowering neither adds nor drops a mark. -/
theorem mem_lowerChars_iff {cs : List Char} {d : Char} (hd : isMark d = true) :
    d ∈ lowerChars cs ↔ d ∈ cs :=
  mem_lowerFrom_iff hd

/-- A lowered text starts with the same mark as the text, or with none like it. -/
theorem exists_cons_lowerChars (c : Char) (cs : List Char) :
    ∃ d ds, lowerChars (c :: cs) = d :: ds ∧ (d = c ∨ isMark c = false ∧ IsSmallLetter d) := by
  rw [lowerChars, lowerFrom]
  by_cases hsigma : c = 'Σ'
  · subst hsigma
    refine ⟨_, _, by rw [if_pos rfl, List.singleton_append], .inr ⟨by decide +kernel, ?_⟩⟩
    split <;> decide +kernel
  · rw [if_neg hsigma]
    cases hlower : lowerChar c with
    | nil =>
      unfold lowerChar at hlower
      split at hlower <;> cases hlower
    | cons d ds =>
      refine ⟨d, _, rfl, ?_⟩
      cases hmark : isMark c with
      | true =>
        have hsame := (isLowered_of_isMark hmark).symm.trans hlower
        exact .inl (List.cons.inj hsame).1.symm
      | false =>
        rcases isSmallLetter_or_eq_of_mem_lowerChar (hlower ▸ List.mem_cons_self ..) with
          hsmall | ⟨heq, -⟩
        · exact .inr ⟨rfl, hsmall⟩
        · exact .inl heq

/-- What only marks can be, a lowered text holds only if the text does. -/
theorem not_of_mem_lowerChars {p : Char → Bool} (hp : ∀ c, p c = true → isMark c = true)
    {cs : List Char} (h : ∀ c ∈ cs, p c = false) {d : Char} (hd : d ∈ lowerChars cs) :
    p d = false := by
  cases hpd : p d with
  | false => rfl
  | true =>
    have hmem : d ∈ cs := (mem_lowerChars_iff (hp d hpd)).mp hd
    rw [← hpd, h d hmem]

/-! ## Cuts -/

theorem meetsCased_append {after : List Char} (h : meetsCased after = false) (cs : List Char) :
    meetsCased (cs ++ after) = meetsCased cs := by
  induction cs with
  | nil => exact h
  | cons c cs ih =>
    by_cases hc : isCaseIgnorable c = true
    · simpa [meetsCased, hc] using ih
    · simp [meetsCased, hc]

theorem lowerFrom_append_left {before cs after : List Char} (h : meetsCased after = false) :
    lowerFrom before (cs ++ after) =
      lowerFrom before cs ++ lowerFrom (cs.reverse ++ before) after := by
  induction cs generalizing before with
  | nil => rfl
  | cons c cs ih =>
    have hends : endsWord before (cs ++ after) = endsWord before cs := by
      rw [endsWord, endsWord, meetsCased_append h]
    rw [List.cons_append, lowerFrom, lowerFrom, ih, hends, List.append_assoc]
    simp

theorem lowerFrom_of_not_meetsCased {pre before cs : List Char} (h : meetsCased before = false) :
    lowerFrom (pre ++ before) cs = lowerFrom pre cs := by
  induction cs generalizing pre with
  | nil => rfl
  | cons c cs ih =>
    have hends : endsWord (pre ++ before) cs = endsWord pre cs := by
      rw [endsWord, endsWord, meetsCased_append h]
    rw [lowerFrom, lowerFrom, hends, ← List.cons_append, ih]

/-- What comes first does not change that the rest is lowered, only how. -/
theorem exists_lowerFrom_append (before as bs : List Char) :
    ∃ cs, lowerFrom before (as ++ bs) = cs ++ lowerFrom (as.reverse ++ before) bs := by
  induction as generalizing before with
  | nil => exact ⟨[], rfl⟩
  | cons a as ih =>
    obtain ⟨cs, hcs⟩ := ih (a :: before)
    rw [List.cons_append, lowerFrom, hcs, ← List.append_assoc, List.reverse_cons,
      List.append_assoc as.reverse, List.singleton_append]
    exact ⟨_, rfl⟩

theorem suffix_lowerChars {as cs : List Char} (h : as <:+ cs) (has : ∀ c ∈ as, IsLowered c) :
    as <:+ lowerChars cs := by
  obtain ⟨before, rfl⟩ := h
  obtain ⟨front, hfront⟩ := exists_lowerFrom_append [] before as
  rw [lowerFrom_of_isLowered has] at hfront
  exact ⟨front, hfront.symm⟩

theorem not_meetsCased_of_blankFirst {rest : List Char} (h : BlankFirst rest) :
    meetsCased rest = false := by
  rcases h with rfl | ⟨b, bs, hb, rfl⟩
  · rfl
  · have hignorable : isCaseIgnorable b = false :=
      not_inRanges_of_inRanges hb (by decide +kernel)
    have hcased : isCased b = false :=
      not_inRanges_of_inRanges hb (by decide +kernel)
    simp [meetsCased, hignorable, hcased]

/-- No letter is in sight at a blank, or at the end, if there are none on the way. -/
theorem not_meetsCased_of_run {run rest : List Char} (hrun : ∀ c ∈ run, isCased c = false)
    (hrest : BlankFirst rest) : meetsCased (run ++ rest) = false := by
  induction run with
  | nil => exact not_meetsCased_of_blankFirst hrest
  | cons c run ih =>
    rw [List.forall_mem_cons] at hrun
    by_cases hc : isCaseIgnorable c = true
    · simpa [meetsCased, hc] using ih hrun.2
    · simp [meetsCased, hc, hrun.1]

/-- A text is lowered in parts at a blank: nothing is seen over it. -/
theorem lowerChars_append_blank {b : Char} (hb : isBlank b = true) (cs rest : List Char) :
    lowerChars (cs ++ b :: rest) = lowerChars cs ++ b :: lowerChars rest := by
  have hunseen (ds : List Char) : meetsCased (b :: ds) = false :=
    not_meetsCased_of_blankFirst (.cons hb ds)
  have hlowered : IsLowered b := isLowered_of_isMark (isMark_of_isBlank b hb)
  have hrest : lowerFrom ([] ++ b :: cs.reverse) rest = lowerChars rest :=
    lowerFrom_of_not_meetsCased (hunseen cs.reverse)
  calc lowerChars (cs ++ b :: rest)
    _ = lowerChars cs ++ lowerFrom cs.reverse (b :: rest) := by
      rw [lowerChars, lowerFrom_append_left (hunseen rest), List.append_nil, lowerChars]
    _ = lowerChars cs ++ b :: lowerFrom (b :: cs.reverse) rest := by
      rw [lowerFrom, if_neg hlowered.ne_sigma, hlowered, List.singleton_append]
    _ = lowerChars cs ++ b :: lowerChars rest := by rw [← hrest, List.nil_append]

theorem lowerChars_infix {before cs after : List Char} (hbefore : meetsCased before.reverse = false)
    (hafter : meetsCased after = false) :
    lowerChars cs <:+: lowerChars (before ++ cs ++ after) := by
  obtain ⟨front, hfront⟩ := exists_lowerFrom_append [] before (cs ++ after)
  rw [lowerFrom_append_left hafter, List.append_nil] at hfront
  have hcs : lowerFrom ([] ++ before.reverse) cs = lowerChars cs :=
    lowerFrom_of_not_meetsCased hbefore
  rw [List.nil_append] at hcs
  rw [hcs, ← List.append_assoc, ← List.append_assoc] at hfront
  exact ⟨front, lowerFrom (cs.reverse ++ before.reverse) after, hfront.symm⟩

theorem isWordChar_of_isCased {c : Char} (h : isCased c = true) : isWordChar c = true := by
  obtain ⟨r, hr, hlow, hhigh⟩ := exists_of_inRanges h
  have htable : (casedRanges.all fun r => covers r.1 r.2 alphanumericRanges) = true := by
    decide +kernel
  have hcovers := List.all_eq_true.mp htable r hr
  simp [isWordChar, isAlphanumeric, inRanges_of_covers hcovers hlow hhigh]

end RecordSearch.Text
