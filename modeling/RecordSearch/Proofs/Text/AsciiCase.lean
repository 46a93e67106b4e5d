import RecordSearch.Text.Alphanumeric
import RecordSearch.Text.Blank
import RecordSearch.Text.Lowercase

/-!
The case of the letters `A` to `Z`. Whatever does not tell them from their small forms does not see
whether a text is put in small letters (`apply_lowerAscii`), and the lower case of a text is an
example, with its final sigmas (`lowerChars_map_lowerAscii`). An ASCII text has no other letters
(`lowerChars_of_ascii`).
-/

namespace RecordSearch.Text

def capitals : List Char := (List.range 26).map fun i => Char.ofNat ('A'.toNat + i)

theorem mem_capitals {c : Char} (hA : 'A' ≤ c) (hZ : c ≤ 'Z') : c ∈ capitals := by
  have hlow : 'A'.toNat ≤ c.toNat := hA
  have hhigh : c.toNat ≤ 'Z'.toNat := hZ
  refine List.mem_map.mpr ⟨c.toNat - 'A'.toNat, ?_, ?_⟩
  · have : 'Z'.toNat = 'A'.toNat + 25 := rfl
    rw [List.mem_range]
    omega
  · rw [Nat.add_sub_cancel' hlow, Char.ofNat_toNat]

theorem apply_lowerAscii {α : Type} {f : Char → α}
    (h : capitals.map (f ∘ lowerAscii) = capitals.map f) (c : Char) : f (lowerAscii c) = f c := by
  by_cases hc : 'A' ≤ c ∧ c ≤ 'Z'
  · exact List.map_inj_left.mp h c (mem_capitals hc.1 hc.2)
  · rw [lowerAscii, if_neg hc]

theorem isBlank_lowerAscii (c : Char) : isBlank (lowerAscii c) = isBlank c :=
  apply_lowerAscii (by decide +kernel) c

theorem isWordChar_lowerAscii (c : Char) : isWordChar (lowerAscii c) = isWordChar c :=
  apply_lowerAscii (by decide +kernel) c

theorem isAlpha_lowerAscii (c : Char) : (lowerAscii c).isAlpha = c.isAlpha :=
  apply_lowerAscii (by decide +kernel) c

theorem lowerAscii_eq_iff {d : Char} (hd : d ∉ capitals ++ capitals.map lowerAscii) {c : Char} :
    lowerAscii c = d ↔ c = d := by
  rw [List.mem_append, not_or] at hd
  have hmap : capitals.map ((· = d) ∘ lowerAscii) = capitals.map (· = d) := by
    refine List.map_congr_left fun a ha => ?_
    have hsmall : lowerAscii a ≠ d := fun h => hd.2 (h ▸ List.mem_map_of_mem ha)
    have hcapital : a ≠ d := fun h => hd.1 (h ▸ ha)
    simp [hsmall, hcapital]
  exact iff_of_eq (apply_lowerAscii hmap c)

theorem lowerAscii_eq_colon_iff {c : Char} : lowerAscii c = ':' ↔ c = ':' :=
  lowerAscii_eq_iff (by decide +kernel)

theorem colon_mem_map_lowerAscii_iff {cs : List Char} : ':' ∈ cs.map lowerAscii ↔ ':' ∈ cs := by
  simp [lowerAscii_eq_colon_iff]

/-! ## Lower case -/

theorem meetsCased_map_lowerAscii (cs : List Char) :
    meetsCased (cs.map lowerAscii) = meetsCased cs := by
  have hignorable (c : Char) : isCaseIgnorable (lowerAscii c) = isCaseIgnorable c :=
    apply_lowerAscii (by decide +kernel) c
  have hcased (c : Char) : isCased (lowerAscii c) = isCased c :=
    apply_lowerAscii (by decide +kernel) c
  induction cs with
  | nil => rfl
  | cons c cs ih =>
    by_cases hc : isCaseIgnorable c = true
    · simpa [meetsCased, hignorable, hc] using ih
    · simp [meetsCased, hignorable, hc, hcased]

theorem lowerChar_lowerAscii (c : Char) : lowerChar (lowerAscii c) = lowerChar c :=
  apply_lowerAscii (by decide +kernel) c

theorem lowerFrom_map_lowerAscii (before cs : List Char) :
    lowerFrom (before.map lowerAscii) (cs.map lowerAscii) = lowerFrom before cs := by
  induction cs generalizing before with
  | nil => rfl
  | cons c cs ih =>
    have hsigma : lowerAscii c = 'Σ' ↔ c = 'Σ' := lowerAscii_eq_iff (by decide +kernel)
    have hends : endsWord (before.map lowerAscii) (cs.map lowerAscii) = endsWord before cs := by
      rw [endsWord, endsWord, meetsCased_map_lowerAscii, meetsCased_map_lowerAscii]
    have hrest := ih (c :: before)
    rw [List.map_cons] at hrest
    rw [List.map_cons, lowerFrom, lowerFrom, hrest, hends, lowerChar_lowerAscii]
    simp only [hsigma]

theorem lowerChars_map_lowerAscii (cs : List Char) :
    lowerChars (cs.map lowerAscii) = lowerChars cs :=
  lowerFrom_map_lowerAscii [] cs

/-! ## ASCII texts -/

def IsAscii (cs : List Char) : Prop := ∀ c ∈ cs, c.toNat < 128

instance (cs : List Char) : Decidable (IsAscii cs) :=
  decidable_of_iff (cs.all (·.toNat < 128) = true) (by simp [IsAscii])

theorem ascii_of_isAlphanum {c : Char} (hc : c.isAlphanum = true) : c.toNat < 128 := by
  rcases Bool.or_eq_true_iff.mp hc with hletter | hdigit
  · rcases Bool.or_eq_true_iff.mp hletter with hupper | hlower
    · have hZ : c ≤ 'Z' := (of_decide_eq_true hupper).2
      exact Nat.lt_of_le_of_lt hZ (by decide)
    · have hz : c ≤ 'z' := of_decide_eq_true (Bool.and_eq_true_iff.mp hlower).2
      exact Nat.lt_of_le_of_lt hz (by decide)
  · exact Nat.lt_of_le_of_lt (Char.isDigit_iff_toNat.mp hdigit).2 (by decide)

theorem ascii_of_isAlpha {c : Char} (hc : c.isAlpha = true) : c.toNat < 128 :=
  ascii_of_isAlphanum (Bool.or_eq_true_iff.mpr (Or.inl hc))

theorem lowerAscii_lowerAscii (c : Char) : lowerAscii (lowerAscii c) = lowerAscii c :=
  apply_lowerAscii (by decide +kernel) c

theorem map_lowerAscii_eq_self_iff {cs : List Char} :
    cs.map lowerAscii = cs ↔ ∀ c ∈ cs, lowerAscii c = c := by
  simpa using List.map_inj_left (f := lowerAscii) (g := id) (l := cs)

theorem map_lowerAscii_map_lowerAscii (cs : List Char) :
    (cs.map lowerAscii).map lowerAscii = cs.map lowerAscii := by
  simp [lowerAscii_lowerAscii]

theorem of_ascii_table {P : Char → Prop} (htable : ∀ n < 128, P (Char.ofNat n)) {c : Char}
    (hc : c.toNat < 128) : P c := by
  have h := htable c.toNat hc
  rwa [Char.ofNat_toNat] at h

theorem lowerChar_of_ascii {c : Char} (h : c.toNat < 128) : lowerChar c = [lowerAscii c] :=
  of_ascii_table (P := fun c => lowerChar c = [lowerAscii c]) (by decide +kernel) h

theorem lowerFrom_of_ascii {before cs : List Char} (h : IsAscii cs) :
    lowerFrom before cs = cs.map lowerAscii := by
  induction cs generalizing before with
  | nil => rfl
  | cons c cs ih =>
    obtain ⟨hc, hcs⟩ := List.forall_mem_cons.mp h
    have hsigma : c ≠ 'Σ' := by
      rintro rfl
      exact absurd hc (by decide)
    rw [lowerFrom, if_neg hsigma, lowerChar_of_ascii hc, ih hcs, List.map_cons,
      List.singleton_append]

theorem lowerChars_of_ascii {cs : List Char} (h : IsAscii cs) :
    lowerChars cs = cs.map lowerAscii :=
  lowerFrom_of_ascii h

/-! ## Folded texts -/

/-- The text with `A` to `Z` in small letters. -/
def foldCase (s : String) : String := String.ofList (s.toList.map lowerAscii)

@[simp] theorem toList_foldCase (s : String) : (foldCase s).toList = s.toList.map lowerAscii := by
  simp [foldCase]

theorem lower_foldCase (s : String) : lower (foldCase s) = lower s := by
  rw [lower, toList_foldCase, lowerChars_map_lowerAscii, lower]

end RecordSearch.Text
