/-!
Where a text occurs inside another, and the two sides of the first occurrence of a character.
-/

namespace RecordSearch.Text

/-- `word` occurs in `cs` without gaps. -/
def occursIn (word : List Char) : List Char → Bool
  | [] => word.isEmpty
  | c :: cs => word.isPrefixOf (c :: cs) || occursIn word cs

theorem occursIn_iff {word cs : List Char} : occursIn word cs = true ↔ word <:+: cs := by
  induction cs with
  | nil => simp [occursIn]
  | cons c cs ih => simp [occursIn, ih, List.infix_cons_iff]

/-- The text before the first `c` and the text after it. -/
def splitAtFirst (c : Char) : List Char → Option (List Char × List Char)
  | [] => none
  | d :: ds => if d = c then some ([], ds) else (splitAtFirst c ds).map fun (a, b) => (d :: a, b)

theorem splitAtFirst_eq_some_iff {c : Char} {cs a b : List Char} :
    splitAtFirst c cs = some (a, b) ↔ cs = a ++ c :: b ∧ c ∉ a := by
  induction cs generalizing a with
  | nil => simp [splitAtFirst]
  | cons d ds ih =>
    by_cases hd : d = c
    · subst hd
      cases a with
      | nil => simp [splitAtFirst, eq_comm]
      | cons x a => simp [splitAtFirst, eq_comm]; grind
    · cases a with
      | nil => simp [splitAtFirst, hd]
      | cons x a =>
        simp only [splitAtFirst, hd, ↓reduceIte, Option.map_eq_some_iff, Prod.exists,
          Prod.mk.injEq, List.cons.injEq, List.cons_append, List.mem_cons, not_or]
        constructor
        · rintro ⟨a', b', h, ⟨rfl, rfl⟩, rfl⟩
          have := ih.1 h
          exact ⟨⟨rfl, this.1⟩, fun e => hd e.symm, this.2⟩
        · rintro ⟨⟨rfl, rfl⟩, _, h⟩
          exact ⟨a, b, ih.2 ⟨rfl, h⟩, ⟨rfl, rfl⟩, rfl⟩

theorem splitAtFirst_eq_none_iff {c : Char} {cs : List Char} :
    splitAtFirst c cs = none ↔ c ∉ cs := by
  induction cs with
  | nil => simp [splitAtFirst]
  | cons d ds ih =>
    by_cases hd : d = c
    · simp [splitAtFirst, hd]
    · simp [splitAtFirst, hd, ih, Ne.symm hd]

end RecordSearch.Text
