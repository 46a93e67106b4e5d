/-!
Sets of characters, given as closed ranges of code points in ascending order.
-/

namespace RecordSearch.Text

/-- The search stops at the first range that lies above `c`. -/
def inRanges (c : Char) : List (Nat × Nat) → Bool
  | [] => false
  | (first, last) :: rest =>
    if c.toNat < first then false else c.toNat ≤ last || inRanges c rest

theorem exists_of_inRanges {c : Char} {rs : List (Nat × Nat)} (h : inRanges c rs = true) :
    ∃ r ∈ rs, r.1 ≤ c.toNat ∧ c.toNat ≤ r.2 := by
  induction rs with
  | nil => simp [inRanges] at h
  | cons r rs ih =>
    obtain ⟨first, last⟩ := r
    by_cases hlt : c.toNat < first
    · simp [inRanges, hlt] at h
    · simp only [inRanges, hlt, ↓reduceIte, Bool.or_eq_true, decide_eq_true_eq] at h
      rcases h with h | h
      · exact ⟨(first, last), List.mem_cons_self .., Nat.le_of_not_lt hlt, h⟩
      · obtain ⟨r, hr, hb⟩ := ih h
        exact ⟨r, List.mem_cons_of_mem _ hr, hb⟩

end RecordSearch.Text
