import RecordSearch.Proofs.Query.Reading
import RecordSearch.Proofs.Text.Lowering
import RecordSearch.Registry.Basic

/-!
What a query can ask for. Each of its patterns is for a word whose characters stand in the query,
under any field or under one that is looked up by a name without a colon
(`exists_ofWord_of_mem_compile`). The word is never empty, holds no blank and is in lower case, and the
field goes by the name it is registered with (`wellFormed_of_mem_compile`).
-/

namespace RecordSearch.Query

open RecordSearch.Text

variable {lookup : FieldLookup}

/-! ## Words -/

theorem ValueSlice.subset {value : String} {phrase : Bool} {u : List Char}
    (h : ValueSlice value phrase u) : value.toList ⊆ u := by
  cases h with
  | run value => exact List.Subset.refl _
  | phrase hq hvalue =>
    exact List.Subset.trans (List.subset_append_left _ _) (List.subset_cons_self _ _)

theorem TermSlice.subset_of_mem_words {t : Term} {u : List Char} (h : TermSlice lookup t u)
    {word : String} (hword : word ∈ t.words) : word.toList ⊆ u := by
  rcases List.mem_append.mp hword with hkey | hvalue
  · cases h with
    | bare => cases hkey
    | field hlookup hslice =>
      exact List.Subset.trans (infix_colons (List.mem_cons_of_mem _ hkey)).subset
        (List.subset_append_left _ _)
  · obtain ⟨w, hw, rfl⟩ := List.mem_map.mp hvalue
    have hsub : (String.ofList w).toList ⊆ t.value.toList := by
      rw [String.toList_ofList]
      exact (Term.infix_of_mem_valueWords hw).subset
    cases h with
    | bare hslice => exact List.Subset.trans hsub hslice.subset
    | field hlookup hslice =>
      exact List.Subset.trans (List.Subset.trans hsub hslice.subset)
        (List.subset_append_right _ _)

/-! ## Fields -/

theorem eq_some_of_ofField {field : Option String} {name : String}
    (h : Scope.ofField field = .exact name) : field = some name := by
  cases field with
  | none => cases h
  | some f => rw [Scope.exact.inj h]

theorem exists_typed_of_readTerm {cs : List Char} {field : String}
    (h : (readTerm lookup cs).1.field = some field) :
    ∃ typed, lookup typed = some field ∧ IsFieldName typed := by
  unfold readTerm at h
  cases hread : readFieldTerm? lookup cs with
  | none => simp [hread, readBareTerm] at h
  | some p =>
    rw [hread, Option.getD_some] at h
    unfold readFieldTerm? at hread
    split at hread
    · cases hread
    · rename_i typed after hcut
      obtain ⟨hcut, hne, hquote, -⟩ := cutAtColon?_of_cutFieldName? hcut
      obtain ⟨-, hstop⟩ := eq_of_cutAtColon? hcut
      have hname : IsFieldName (String.ofList typed) :=
        ⟨by simpa using hne, by simpa using hstop, by simpa using hquote⟩
      split at hread
      · cases hread
      · rename_i known hlookup
        obtain rfl : known = field := by
          simp only [Option.some.injEq] at hread
          simpa [← hread] using h
        exact ⟨String.ofList typed, hlookup, hname⟩

/-! ## Patterns -/

/-- Every term is read off what is left of the query at some point. -/
theorem exists_suffix_of_mem_scanChars {cs : List Char} {t : Term}
    (h : t ∈ scanChars lookup cs) :
    ∃ c rest, isBlank c = false ∧ c :: rest <:+ cs ∧ t = (readTerm lookup (c :: rest)).1 := by
  fun_induction scanChars lookup cs with
  | case1 => cases h
  | case2 cs c rest hskip r ih =>
    have hc : isBlank c = false := not_blank_of_skipBlanks hskip
    have hsuffix : c :: rest <:+ cs := hskip ▸ List.dropWhile_suffix _
    rcases List.mem_cons.mp h with rfl | hmem
    · exact ⟨c, rest, hc, hsuffix, rfl⟩
    · obtain ⟨u, -, hsplit, -⟩ := exists_slice_readTerm lookup hc rest
      have hleft : r.2 <:+ c :: rest := ⟨u, hsplit.symm⟩
      obtain ⟨d, rest', hd, hpart, ht⟩ := ih hmem
      exact ⟨d, rest', hd, (hpart.trans hleft).trans hsuffix, ht⟩

theorem subset_of_mem_scanChars {cs : List Char} {t : Term} (ht : t ∈ scanChars lookup cs)
    {word : String} (hword : word ∈ t.words) : word.toList ⊆ cs := by
  obtain ⟨c, rest, hc, hsuffix, rfl⟩ := exists_suffix_of_mem_scanChars ht
  obtain ⟨u, hslice, hsplit, -⟩ := exists_slice_readTerm lookup hc rest
  have hstart : u <+: c :: rest := ⟨_, hsplit.symm⟩
  have hquery : u ⊆ cs := (hstart.isInfix.trans hsuffix.isInfix).subset
  exact List.Subset.trans (hslice.subset_of_mem_words hword) hquery

theorem exists_typed_of_mem_scanChars {cs : List Char} {t : Term} (ht : t ∈ scanChars lookup cs)
    {field : String} (hfield : t.field = some field) :
    ∃ typed, lookup typed = some field ∧ IsFieldName typed := by
  obtain ⟨c, rest, -, -, rfl⟩ := exists_suffix_of_mem_scanChars ht
  exact exists_typed_of_readTerm hfield

theorem mem_compile_iff {query : String} {p : Pattern} :
    p ∈ compile lookup query ↔
      ∃ t ∈ scan lookup query, ∃ word ∈ t.words, Pattern.ofWord t.field word = p := by
  simp only [compile, termPatterns, List.mem_flatMap, List.mem_map]

theorem exists_ofWord_of_mem_compile {query : String} {p : Pattern}
    (h : p ∈ compile lookup query) :
    ∃ field word, p = Pattern.ofWord field word ∧ word.toList ⊆ query.toList ∧
      ∀ name ∈ field, ∃ typed, lookup typed = some name ∧ ':' ∉ typed.toList := by
  obtain ⟨t, ht, word, hword, rfl⟩ := mem_compile_iff.mp h
  refine ⟨_, word, rfl, subset_of_mem_scanChars ht hword, ?_⟩
  intro name hname
  obtain ⟨typed, hlookup, htyped⟩ := exists_typed_of_mem_scanChars ht hname
  exact ⟨typed, hlookup, htyped.not_mem_colon⟩

/-- A pattern is for a field only if the field has a name that can be typed. -/
theorem exists_isFieldName_of_mem_compile {query : String} {p : Pattern}
    (h : p ∈ compile lookup query) {name : String} (hscope : p.scope = .exact name) :
    ∃ typed, lookup typed = some name ∧ IsFieldName typed := by
  obtain ⟨t, ht, word, -, rfl⟩ := mem_compile_iff.mp h
  exact exists_typed_of_mem_scanChars ht (eq_some_of_ofField hscope)

/-! ## Well-formed patterns -/

theorem Term.WellFormed.ne_empty_and_not_blank {t : Term} (ht : t.WellFormed) {word : String}
    (hword : word ∈ t.words) : word ≠ "" ∧ ∀ c ∈ word.toList, isBlank c = false := by
  rcases List.mem_append.mp hword with hkey | hvalue
  · obtain ⟨hne, hends⟩ := ht.isKey word hkey
    exact ⟨hne, fun c hc => (endsKey_eq_false_iff.mp (hends c hc)).1⟩
  · obtain ⟨w, hw, rfl⟩ := List.mem_map.mp hvalue
    refine ⟨by simpa using Term.ne_nil_of_mem_valueWords hw, ?_⟩
    rw [String.toList_ofList]
    exact Term.not_blank_of_mem_valueWords hw

/-- A lowered word without blanks, to be found in any case, under the name of a registered field or
under any. -/
structure Pattern.WellFormed (r : FieldRegistry) (p : Pattern) : Prop where
  ignoreCase : p.ignoreCase = true
  word_ne_empty : p.word ≠ ""
  word_not_blank : ∀ c ∈ p.word.toList, isBlank c = false
  lower_word : lower p.word = p.word
  scope : p.scope = .any ∨ ∃ name ∈ r.names, p.scope = .exact name

theorem Pattern.wellFormed_ofWord {r : FieldRegistry} {field : Option String}
    (hfield : ∀ name ∈ field, name ∈ r.names) {word : String} (hne : word ≠ "")
    (hblank : ∀ c ∈ word.toList, isBlank c = false) : (ofWord field word).WellFormed r where
  ignoreCase := rfl
  word_ne_empty := by
    have hlower := lowerChars_ne_nil (mt String.toList_eq_nil_iff.mp hne)
    simpa [ofWord, lower] using hlower
  word_not_blank c hc := by
    rw [ofWord, toList_lower] at hc
    exact not_of_mem_lowerChars isMark_of_isBlank hblank hc
  lower_word := by rw [ofWord, lower, toList_lower, lowerChars_lowerChars, lower]
  scope := by
    cases field with
    | none => exact .inl rfl
    | some name => exact .inr ⟨name, hfield name rfl, rfl⟩

theorem wellFormed_of_mem_compile {r : FieldRegistry} {query : String} {p : Pattern}
    (hp : p ∈ compile r.lookup query) : p.WellFormed r := by
  obtain ⟨t, ht, word, hword, rfl⟩ := mem_compile_iff.mp hp
  -- what the scan keeps true of all its terms
  obtain ⟨slices, -, -, hterms⟩ := exists_slices_scanChars r.lookup query.toList
  obtain ⟨hne, hblank⟩ := (hterms t ht).ne_empty_and_not_blank hword
  refine Pattern.wellFormed_ofWord ?_ hne hblank
  intro name hname
  obtain ⟨typed, hlookup, -⟩ := exists_typed_of_mem_scanChars ht hname
  exact FieldRegistry.mem_names_of_lookup hlookup

def songFields : FieldRegistry :=
  (FieldRegistry.empty "song").insert (.direct "song" ⟨"titles", .empty⟩)

/-- The field is not spelled as it is registered, the key keeps its brackets, and the phrase has a word
of marks alone. -/
theorem wellFormed_of_mem_compile_song :
    compile songFields.lookup "TITLE:(Cut):'-- ΟΔΟΣ'" =
      [⟨.exact "title", "(cut)", true⟩, ⟨.exact "title", "οδος", true⟩] ∧
    ⟨.exact "title", "οδος", true⟩ ∈ compile songFields.lookup "TITLE:(Cut):'-- ΟΔΟΣ'" ∧
    Pattern.WellFormed songFields ⟨.exact "title", "οδος", true⟩ := by
  have hcompile : compile songFields.lookup "TITLE:(Cut):'-- ΟΔΟΣ'" =
      [⟨.exact "title", "(cut)", true⟩, ⟨.exact "title", "οδος", true⟩] := by decide +kernel
  have hmem : ⟨.exact "title", "οδος", true⟩ ∈
      compile songFields.lookup "TITLE:(Cut):'-- ΟΔΟΣ'" := by simp [hcompile]
  exact ⟨hcompile, hmem, wellFormed_of_mem_compile hmem⟩

end RecordSearch.Query
