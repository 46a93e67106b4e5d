import RecordSearch.Proofs.Index.FieldIsolation
import RecordSearch.Proofs.Text.Lowering
import RecordSearch.Query.Scan

/-!
What stands in tokens. What follows the name has no blanks (`not_blank_tokenRest`). If the field does
not keep punctuation, its words consist of small letters (`isSmallLetter_of_mem_normalizedWords`), and
what follows the name is in lower case, and without quotes if the keys have none
(`tokenChar_of_mem_tokensFor`). On the other side, every trimmed word of a text that holds no
punctuation is part of an indexed word of the text (`exists_mem_normalizedWords_of_mem_valueWords`).
-/

namespace RecordSearch.Index

open RecordSearch.Text RecordSearch.Query

/-! ## Words -/

def blankMark (c : Char) : Char := if isPunctuation c then ' ' else c

theorem blankPunctuation_false (cs : List Char) : blankPunctuation false cs = cs.map blankMark :=
  rfl

theorem not_punctuation_blankMark (c : Char) : isPunctuation (blankMark c) = false := by
  by_cases hc : isPunctuation c = true
  · rw [blankMark, if_pos hc]
    decide
  · rw [blankMark, if_neg hc]
    exact Bool.eq_false_iff.mpr hc

theorem blankMark_of_not_punctuation {c : Char} (h : isPunctuation c = false) :
    blankMark c = c := by
  simp [blankMark, h]

theorem map_blankMark_of_not_punctuation {cs : List Char}
    (h : ∀ c ∈ cs, isPunctuation c = false) : cs.map blankMark = cs :=
  (List.map_congr_left fun c hc => blankMark_of_not_punctuation (h c hc)).trans (List.map_id cs)

theorem isSmallLetter_of_mem_normalizedWords {cs w : List Char} (hw : w ∈ normalizedWords false cs)
    {c : Char} (hc : c ∈ w) : IsSmallLetter c := by
  have hlowered : c ∈ lowerChars (cs.map blankMark) := mem_of_mem_words hw hc
  have hpunct : ∀ d ∈ cs.map blankMark, isPunctuation d = false := by
    intro d hd
    obtain ⟨e, -, rfl⟩ := List.mem_map.mp hd
    exact not_punctuation_blankMark e
  exact ⟨isLowered_of_mem_lowerChars hlowered, not_blank_of_mem_words hw c hc,
    not_of_mem_lowerChars isMark_of_isPunctuation hpunct hlowered⟩

theorem not_cased_blankMark {c : Char} (h : isWordChar c = false) :
    isCased (blankMark c) = false := by
  by_cases hc : isPunctuation c = true
  · rw [blankMark, if_pos hc]
    decide +kernel
  · rw [blankMark, if_neg hc]
    cases hcased : isCased c with
    | false => rfl
    | true => rw [← h, isWordChar_of_isCased hcased]

theorem blankFirst_map_blankMark {cs : List Char} (h : BlankFirst cs) :
    BlankFirst (cs.map blankMark) := by
  rcases h with rfl | ⟨b, rest, hb, rfl⟩
  · exact Or.inl rfl
  · refine .cons ?_ (rest.map blankMark)
    unfold blankMark
    split
    · exact isBlank_space
    · exact hb

/-- No letter is in sight over what is trimmed off a word. -/
theorem not_meetsCased_map_blankMark {run rest : List Char} (hrun : ∀ c ∈ run, isWordChar c = false)
    (hrest : BlankFirst rest) : meetsCased ((run ++ rest).map blankMark) = false := by
  rw [List.map_append]
  refine not_meetsCased_of_run (fun c hc => ?_) (blankFirst_map_blankMark hrest)
  obtain ⟨d, hd, rfl⟩ := List.mem_map.mp hc
  exact not_cased_blankMark (hrun d hd)

theorem exists_mem_normalizedWords_of_mem_valueWords {cs w : List Char}
    (hw : w ∈ Term.valueWords cs) (hpunct : ∀ c ∈ w, isPunctuation c = false) :
    ∃ v ∈ normalizedWords false cs, lowerChars w <:+: v := by
  obtain ⟨before, left, right, after, rfl, hleft, hright, hbefore, hafter⟩ :=
    Term.exists_cut_of_mem_valueWords hw
  have hpart : lowerChars w <:+: lowerChars (blankPunctuation false
      (before ++ left ++ w ++ (right ++ after))) := by
    rw [blankPunctuation_false, List.map_append, List.map_append,
      map_blankMark_of_not_punctuation hpunct]
    refine lowerChars_infix ?_ (not_meetsCased_map_blankMark hright hafter)
    rw [← List.map_reverse, List.reverse_append]
    exact not_meetsCased_map_blankMark (fun c hc => hleft c (List.mem_reverse.mp hc)) hbefore
  have hblank : ∀ c ∈ lowerChars w, isBlank c = false := fun c hc =>
    not_of_mem_lowerChars isMark_of_isBlank (Term.not_blank_of_mem_valueWords hw) hc
  exact exists_mem_words_of_infix (lowerChars_ne_nil (Term.ne_nil_of_mem_valueWords hw)) hblank
    hpart

/-! ## Tokens -/

/-- A character that may follow the name in a token. -/
structure TokenChar (c : Char) : Prop where
  lowered : IsLowered c
  not_blank : isBlank c = false
  not_quote : isQuote c = false

theorem isMark_of_isQuote (c : Char) (h : isQuote c = true) : isMark c = true := by
  simp only [isQuote, Bool.or_eq_true, decide_eq_true_eq] at h
  rcases h with rfl | rfl <;> decide

theorem tokenChar_of_isSmallLetter {c : Char} (h : IsSmallLetter c) : TokenChar c := by
  refine ⟨h.lowered, h.not_blank, ?_⟩
  cases hquote : isQuote c with
  | false => rfl
  | true =>
    rw [← isMark_of_isQuote c hquote, not_isMark_of_isSmallLetter h]

theorem eq_or_mem_lowerChars_of_mem_normalizeKey {key : String} {c : Char}
    (hc : c ∈ (normalizeKey key).toList) :
    c = '_' ∨ c ∈ lowerChars key.toList ∧ isBlank c = false := by
  rw [normalizeKey, String.toList_ofList] at hc
  obtain ⟨d, hd, rfl⟩ := List.mem_map.mp hc
  split
  · exact Or.inl rfl
  · rename_i hends
    simp only [Bool.or_eq_true, decide_eq_true_eq, not_or, Bool.not_eq_true] at hends
    exact Or.inr ⟨hd, hends.1⟩

theorem tokenChar_of_mem_normalizeKey {key : String} (hkey : ∀ c ∈ key.toList, isQuote c = false)
    {c : Char} (hc : c ∈ (normalizeKey key).toList) : TokenChar c := by
  rcases eq_or_mem_lowerChars_of_mem_normalizeKey hc with rfl | ⟨hmem, hblank⟩
  · exact ⟨by decide +kernel, by decide, by decide⟩
  · exact ⟨isLowered_of_mem_lowerChars hmem, hblank,
      not_of_mem_lowerChars isMark_of_isQuote hkey hmem⟩

theorem mem_tokensFor_iff {ix : Indexer} {d : FieldDescriptor} {record : Json} {token : String} :
    token ∈ ix.tokensFor d record ↔ ∃ segment ∈ (d.valueIn record).segments,
      ∃ w ∈ normalizedWords (d.keepsPunctuation ix.keepPunctuation) segment.2.toList,
        token = Index.token d.name (tokenRest (String.ofList w) segment.1) := by
  simp only [Indexer.tokensFor, segmentTokens, normalizeWords, List.mem_flatMap, List.mem_map,
    token_tokenRest]
  constructor
  · rintro ⟨segment, hsegment, word, ⟨w, hw, rfl⟩, rfl⟩
    exact ⟨segment, hsegment, w, hw, rfl⟩
  · rintro ⟨segment, hsegment, w, hw, rfl⟩
    exact ⟨segment, hsegment, String.ofList w, ⟨w, hw, rfl⟩, rfl⟩

theorem not_blank_tokenRest {keep : Bool} {cs w : List Char} (hw : w ∈ normalizedWords keep cs)
    (key : Option String) {c : Char} (hc : c ∈ (tokenRest (String.ofList w) key).toList) :
    isBlank c = false := by
  cases key with
  | none =>
    rw [tokenRest, String.toList_ofList] at hc
    exact not_blank_of_mem_words hw c hc
  | some key =>
    simp only [tokenRest, String.toList_append, String.toList_ofList, List.mem_append] at hc
    rcases hc with (hc | hc) | hc
    · rcases eq_or_mem_lowerChars_of_mem_normalizeKey hc with rfl | ⟨-, hblank⟩
      · decide
      · exact hblank
    · obtain rfl : c = ':' := by simpa using hc
      decide
    · exact not_blank_of_mem_words hw c hc

theorem tokenChar_of_mem_tokensFor {ix : Indexer} {d : FieldDescriptor} {record : Json}
    {token : String} (hstrip : d.keepsPunctuation ix.keepPunctuation = false)
    (hkeys : ∀ segment ∈ (d.valueIn record).segments, ∀ key ∈ segment.1,
      ∀ c ∈ key.toList, isQuote c = false)
    (htoken : token ∈ ix.tokensFor d record) :
    ∃ rest, token = Index.token d.name rest ∧ rest ≠ "" ∧ ∀ c ∈ rest.toList, TokenChar c := by
  obtain ⟨⟨key, text⟩, hsegment, w, hw, rfl⟩ := mem_tokensFor_iff.mp htoken
  rw [hstrip] at hw
  have hne : w ≠ [] := ne_nil_of_mem_words hw
  have hword : ∀ c ∈ w, TokenChar c := fun c hc =>
    tokenChar_of_isSmallLetter (isSmallLetter_of_mem_normalizedWords hw hc)
  cases key with
  | none => exact ⟨_, rfl, by simpa [tokenRest] using hne, by simpa [tokenRest] using hword⟩
  | some key =>
    have hcolon : TokenChar ':' := ⟨by decide +kernel, by decide, by decide⟩
    refine ⟨_, rfl, ?_, fun c hc => ?_⟩
    · simp [tokenRest, ← String.toList_eq_nil_iff]
    · simp only [tokenRest, String.toList_append, List.mem_append, String.toList_ofList] at hc
      rcases hc with (hc | hc) | hc
      · exact tokenChar_of_mem_normalizeKey (hkeys _ hsegment key rfl) hc
      · obtain rfl : c = ':' := by simpa using hc
        exact hcolon
      · exact hword c hc

end RecordSearch.Index
