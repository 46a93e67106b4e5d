import RecordSearch.Proofs.Query.Slices
import RecordSearch.Query.Compile

/-!
What the terms of a query of a known form are.

* `scan_of_isKey`: without blanks and quotes, `name:rest` is one term under the field, and its keys
  and words are parts of the rest;
* `compile_of_plain`: without colons and quotes, a query asks for its own trimmed words, under any
  field.
-/

namespace RecordSearch.Query

open RecordSearch.Text

/-! ## Without blanks and quotes -/

theorem cutAtColon?_append {stop : Char → Bool} (hcolon : stop ':' = true) {a : List Char}
    (ha : ∀ c ∈ a, stop c = false) (rest : List Char) :
    cutAtColon? stop (a ++ ':' :: rest) = some (a, rest) := by
  have hgo : ∀ c ∈ a, (!stop c) = true := fun c hc => by simp [ha c hc]
  rw [cutAtColon?, List.dropWhile_append_of_pos hgo, List.takeWhile_append_of_pos hgo]
  simp [hcolon]

theorem endsKey_eq_false_iff {c : Char} :
    endsKey c = false ↔ isBlank c = false ∧ c ≠ ':' ∧ isQuote c = false := by
  simp [endsKey, and_assoc]

theorem IsKey.not_mem_colon {name : String} (h : IsKey name) : ':' ∉ name.toList := fun hmem =>
  (endsKey_eq_false_iff.mp (h.2 ':' hmem)).2.1 rfl

/-- What can be typed as the name of a field. -/
structure IsFieldName (name : String) : Prop where
  ne_empty : name ≠ ""
  not_ends : ∀ c ∈ name.toList, endsFieldName c = false
  not_quote : startsQuote name.toList = false

theorem IsFieldName.not_mem_colon {name : String} (h : IsFieldName name) : ':' ∉ name.toList :=
  fun hmem => absurd (h.not_ends ':' hmem) (by decide)

theorem IsKey.isFieldName {name : String} (h : IsKey name) : IsFieldName name where
  ne_empty := h.1
  not_ends c hc := by
    obtain ⟨hblank, hcolon, -⟩ := endsKey_eq_false_iff.mp (h.2 c hc)
    simp [endsFieldName, hblank, hcolon]
  not_quote := startsQuote_eq_false fun c hc => (endsKey_eq_false_iff.mp (h.2 c hc)).2.2

theorem IsFieldName.startsBlank_append {name : String} (h : IsFieldName name) (cs : List Char) :
    startsBlank (name.toList ++ cs) = false := by
  obtain ⟨c, rest, hchars⟩ :=
    List.exists_cons_of_ne_nil (mt String.toList_eq_nil_iff.mp h.ne_empty)
  have hc := h.not_ends c (by simp [hchars])
  simp only [endsFieldName, Bool.or_eq_false_iff] at hc
  simpa [hchars, startsBlank] using hc.1

theorem cutFieldName?_of_isFieldName {name : String} (h : IsFieldName name) {rest : List Char}
    (hrest : startsBlank rest = false) :
    cutFieldName? (name.toList ++ ':' :: rest) = some (name.toList, rest) := by
  have hne : name.toList ≠ [] := mt String.toList_eq_nil_iff.mp h.ne_empty
  simp [cutFieldName?, cutAtColon?_append rfl h.not_ends, hne, h.not_quote, hrest]

theorem readValue_of_run {cs : List Char} (hquote : startsQuote cs = false)
    (hblank : ∀ c ∈ cs, isBlank c = false) : readValue cs = (String.ofList cs, false, []) := by
  rw [readValue_of_not_startsQuote hquote, firstRun_of_not_blank hblank,
    dropWhile_of_not_blank hblank]

section

variable {lookup : FieldLookup}

theorem scanChars_of_skipBlanks {cs rest : List Char} {c : Char}
    (h : skipBlanks cs = c :: rest) :
    scanChars lookup cs = (readTerm lookup (c :: rest)).1 ::
      scanChars lookup (readTerm lookup (c :: rest)).2 := by
  rw [scanChars]
  split
  · rename_i hnil
    rw [hnil] at h
    cases h
  · rename_i hcons
    rw [hcons] at h
    rw [h]

theorem scanChars_of_not_startsBlank {cs : List Char} (h : startsBlank cs = false) :
    scanChars lookup cs =
      (readTerm lookup cs).1 :: scanChars lookup (readTerm lookup cs).2 := by
  cases cs with
  | nil => cases h
  | cons c cs =>
    have hc : isBlank c = false := h
    exact scanChars_of_skipBlanks (by simp [skipBlanks, hc])

theorem scanChars_of_skipBlanks_nil {cs : List Char} (h : skipBlanks cs = []) :
    scanChars lookup cs = [] := by
  rw [scanChars]
  split
  · rfl
  · rename_i hcons
    rw [h] at hcons
    cases hcons

theorem scanChars_nil : scanChars lookup [] = [] := scanChars_of_skipBlanks_nil rfl

/-- Blanks in front do not count. -/
theorem scanChars_append_blanks {gap : List Char} (hgap : ∀ c ∈ gap, isBlank c = true)
    (cs : List Char) : scanChars lookup (gap ++ cs) = scanChars lookup cs := by
  have hskip : skipBlanks (gap ++ cs) = skipBlanks cs := List.dropWhile_append_of_pos hgap
  cases h : skipBlanks cs with
  | nil => rw [scanChars_of_skipBlanks_nil h, scanChars_of_skipBlanks_nil (hskip.trans h)]
  | cons c rest => rw [scanChars_of_skipBlanks h, scanChars_of_skipBlanks (hskip.trans h)]

theorem readFieldTerm?_of_isKey {name field : String} (hname : IsKey name)
    (hlookup : lookup name = some field) {rest : List Char} (hne : rest ≠ [])
    (hrest : ∀ c ∈ rest, isBlank c = false ∧ isQuote c = false) :
    readFieldTerm? lookup (name.toList ++ ':' :: rest) =
      some (⟨some field, (readKeys rest).1, String.ofList (readKeys rest).2, false⟩, []) := by
  have hblank : startsBlank rest = false := by
    cases rest with
    | nil => exact absurd rfl hne
    | cons c cs => exact (hrest c (List.mem_cons_self ..)).1
  have hleft : ∀ c ∈ (readKeys rest).2, isBlank c = false ∧ isQuote c = false := by
    intro c hc
    refine hrest c ?_
    rw [(eq_readKeys rest).1]
    exact List.mem_append_right _ hc
  have hread := readValue_of_run (startsQuote_eq_false fun c hc => (hleft c hc).2)
    fun c hc => (hleft c hc).1
  simp [readFieldTerm?, cutFieldName?_of_isFieldName hname.isFieldName hblank, hlookup, hread]

theorem scan_of_isKey {name field : String} (hname : IsKey name)
    (hlookup : lookup name = some field) {rest : String} (hne : rest ≠ "")
    (hrest : ∀ c ∈ rest.toList, isBlank c = false ∧ isQuote c = false) :
    scan lookup (name ++ ":" ++ rest) = [⟨some field, (readKeys rest.toList).1,
      String.ofList (readKeys rest.toList).2, false⟩] := by
  have hread := readFieldTerm?_of_isKey hname hlookup (mt String.toList_eq_nil_iff.mp hne) hrest
  have htext : (name ++ ":" ++ rest).toList = name.toList ++ ':' :: rest.toList := by simp
  have hblank : startsBlank (name.toList ++ ':' :: rest.toList) = false :=
    hname.isFieldName.startsBlank_append _
  rw [scan, htext, scanChars_of_not_startsBlank hblank, readTerm, hread, Option.getD_some,
    scanChars_nil]

end

theorem infix_colons {key : String} {keys : List String} (h : key ∈ keys) :
    key.toList <:+: colons keys := by
  obtain ⟨before, after, rfl⟩ := List.append_of_mem h
  exact ⟨colons before, ':' :: colons after, by simp [colons]⟩

/-- The words of such a term are parts of the rest. -/
theorem infix_of_mem_words_readKeys {rest : List Char} {word : String} {field : Option String}
    (h : word ∈ (Term.mk field (readKeys rest).1 (String.ofList (readKeys rest).2) false).words) :
    word.toList <:+: rest := by
  have hrest := (eq_readKeys rest).1
  rcases List.mem_append.mp h with hkey | hword
  · rw [hrest]
    exact (infix_colons hkey).trans (List.prefix_append _ _).isInfix
  · obtain ⟨w, hw, rfl⟩ := List.mem_map.mp hword
    rw [String.toList_ofList] at hw ⊢
    rw [hrest]
    exact (Term.infix_of_mem_valueWords hw).trans (List.suffix_append _ _).isInfix

/-! ## Without colons and quotes -/

section

variable (lookup : FieldLookup) {cs : List Char}

theorem readTerm_of_plain (h : ∀ c ∈ cs, c ≠ ':' ∧ isQuote c = false) :
    readTerm lookup cs =
      (⟨none, [], String.ofList (firstRun cs), false⟩, cs.dropWhile (!isBlank ·)) := by
  have hfield : readFieldTerm? lookup cs = none := by
    cases hcut : cutFieldName? cs with
    | none => simp [readFieldTerm?, hcut]
    | some p =>
      obtain ⟨hcs, -⟩ := eq_of_cutAtColon? (cutAtColon?_of_cutFieldName? hcut).1
      exact absurd rfl (h ':' (by simp [hcs])).1
  have hquote : startsQuote cs = false := startsQuote_eq_false fun c hc => (h c hc).2
  simp [readTerm, hfield, readBareTerm, readValue_of_not_startsQuote hquote]

theorem scanChars_of_plain (h : ∀ c ∈ cs, c ≠ ':' ∧ isQuote c = false) :
    scanChars lookup cs = (words cs).map fun w => ⟨none, [], String.ofList w, false⟩ := by
  fun_induction scanChars lookup cs with
  | case1 cs hnil => rw [words_of_skipBlanks_nil hnil, List.map_nil]
  | case2 cs c rest hskip r ih =>
    have hsub : ∀ d ∈ c :: rest, d ≠ ':' ∧ isQuote d = false := by
      intro d hd
      rw [← hskip] at hd
      exact h d ((List.dropWhile_suffix _).subset hd)
    have hread := readTerm_of_plain lookup hsub
    have hr : r.2 = (c :: rest).dropWhile (!isBlank ·) := congrArg Prod.snd hread
    have hafter : ∀ d ∈ r.2, d ≠ ':' ∧ isQuote d = false := by
      intro d hd
      rw [hr] at hd
      exact hsub d ((List.dropWhile_suffix _).subset hd)
    rw [ih hafter, hr, words_of_skipBlanks_cons hskip, List.map_cons]
    exact congrArg (· :: _) (congrArg Prod.fst hread)

end

theorem flatMap_valueWords_words (cs : List Char) :
    (words cs).flatMap Term.valueWords = Term.valueWords cs := by
  have hword : ∀ w ∈ words cs, Term.valueWords w = [Term.trimWord w].filter (!·.isEmpty) := by
    intro w hw
    rw [Term.valueWords, words_of_not_blank (ne_nil_of_mem_words hw) (not_blank_of_mem_words hw)]
    rfl
  rw [List.flatMap_congr hword, Term.valueWords, List.map_eq_flatMap, List.filter_flatMap]

theorem compile_of_plain (lookup : FieldLookup) {query : String}
    (h : ∀ c ∈ query.toList, c ≠ ':' ∧ isQuote c = false) :
    compile lookup query =
      (Term.valueWords query.toList).map fun w => Pattern.ofWord none (String.ofList w) := by
  rw [compile, scan, scanChars_of_plain lookup h, List.flatMap_map, ← flatMap_valueWords_words,
    List.map_flatMap]
  congr 1
  funext w
  simp [termPatterns, Term.words]

end RecordSearch.Query
