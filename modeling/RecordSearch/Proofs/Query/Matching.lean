import RecordSearch.Proofs.Index.FieldIsolation
import RecordSearch.Proofs.Text.Lowering

/-!
When a token satisfies a pattern for a word. Under a name without a colon it does if the name is
accepted and the word occurs in what follows it (`matchesToken_ofWord_iff`). A name with a colon is
read up to that colon only, but the word of the token still counts (`matchesToken_any_of_infix`).
-/

namespace RecordSearch.Query.Pattern

open RecordSearch.Text RecordSearch.Index

/-- Words are lowered when they are compiled and once more when they are looked for. -/
theorem wordOccursIn_ofWord_iff {field : Option String} {word : String} {rest : List Char} :
    (ofWord field word).wordOccursIn rest = true ↔
      lowerChars word.toList <:+: lowerChars rest := by
  simp only [wordOccursIn, ofWord, ↓reduceIte, toList_lower, lowerChars_lowerChars]
  exact occursIn_iff

theorem accepts_ofField_iff {field : Option String} {name : String} :
    (Scope.ofField field).accepts name = true ↔ ∀ f ∈ field, f = name := by
  cases field with
  | none => simp [Scope.ofField, Scope.accepts]
  | some f => simp [Scope.ofField, Scope.accepts]

theorem matchesToken_ofWord_iff {name : String} (hname : ':' ∉ name.toList) {rest word : String}
    {field : Option String} :
    (ofWord field word).matchesToken (token name rest) = true ↔
      (∀ f ∈ field, f = name) ∧ lowerChars word.toList <:+: lowerChars rest.toList := by
  rw [matchesToken, splitAtFirst_token hname]
  simp only [String.ofList_toList, Bool.and_eq_true]
  exact and_congr accepts_ofField_iff wordOccursIn_ofWord_iff

/-- A longer word of the same field asks for more. -/
theorem matchesToken_of_infix {field : Option String} {word longer : String}
    (h : lowerChars word.toList <:+: lowerChars longer.toList) {token : String}
    (ht : (ofWord field longer).matchesToken token = true) :
    (ofWord field word).matchesToken token = true := by
  unfold matchesToken at ht ⊢
  cases hsplit : splitAtFirst ':' token.toList with
  | none => simp [hsplit] at ht
  | some parts =>
    simp only [hsplit, Bool.and_eq_true] at ht ⊢
    exact ⟨ht.1, wordOccursIn_ofWord_iff.mpr (h.trans (wordOccursIn_ofWord_iff.mp ht.2))⟩

theorem exists_splitAtFirst_append (c : Char) (as bs : List Char) :
    ∃ front rest, splitAtFirst c (as ++ c :: bs) = some (front, rest) ∧ bs <:+ rest := by
  induction as with
  | nil => exact ⟨[], bs, by simp [splitAtFirst], List.suffix_rfl⟩
  | cons a as ih =>
    by_cases ha : a = c
    · refine ⟨[], as ++ c :: bs, by simp [splitAtFirst, ha], ?_⟩
      exact (List.suffix_cons c bs).trans (List.suffix_append as _)
    · obtain ⟨front, rest, hsplit, hsuffix⟩ := ih
      exact ⟨a :: front, rest, by simp [splitAtFirst, ha, hsplit], hsuffix⟩

/-- Whatever the name is. -/
theorem matchesToken_any_of_infix (name : String) {rest word : String}
    (hrest : ∀ c ∈ rest.toList, IsLowered c) (h : lowerChars word.toList <:+: rest.toList) :
    (ofWord none word).matchesToken (token name rest) = true := by
  obtain ⟨front, tail, hsplit, hsuffix⟩ :=
    exists_splitAtFirst_append ':' name.toList rest.toList
  have hoccurs : (ofWord none word).wordOccursIn tail = true :=
    wordOccursIn_ofWord_iff.mpr (h.trans (suffix_lowerChars hsuffix hrest).isInfix)
  rw [matchesToken, toList_token, hsplit]
  exact hoccurs

end RecordSearch.Query.Pattern
