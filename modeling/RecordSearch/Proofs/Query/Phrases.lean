import RecordSearch.Proofs.Query.Rendering

/-!
Phrases and loose words. A text between quotes is read as one term (`readTerm_quoted`), but it is not
looked for as it stands: it asks for its words, wherever they are, just as if each had been typed on
its own (`compile_quoted_eq`).
-/

namespace RecordSearch.Query

open RecordSearch.Text

/-- The text between two of the same quotes. -/
def quoted (q : Char) (phrase : String) : String := String.ofList (q :: phrase.toList ++ [q])

theorem toList_quoted (q : Char) (phrase : String) :
    (quoted q phrase).toList = q :: phrase.toList ++ [q] :=
  String.toList_ofList

section

variable {lookup : FieldLookup} {field : Option String}
  (hfield : ∀ f ∈ field, lookup f = some f ∧ IsFieldName f)

/-! ## Phrases -/

section

variable {q : Char} (hq : isQuote q = true) {phrase : String} (hne : phrase ≠ "")
  (hnot : q ∉ phrase.toList)

include hq

theorem startsQuote_quoted (phrase : String) : startsQuote (quoted q phrase).toList = true := by
  rw [toList_quoted]
  exact hq

theorem startsBlank_quoted (phrase : String) : startsBlank (quoted q phrase).toList = false := by
  rw [toList_quoted]
  exact not_blank_of_isQuote hq

include hne hnot

theorem readValue_quoted : readValue (quoted q phrase).toList = (phrase, true, []) := by
  have hread := readPhrase?_of_quotes hq (mt String.toList_eq_nil_iff.mp hne) hnot []
  rw [toList_quoted, readValue, hread]
  simp only [String.ofList_toList]

include hfield

theorem readTerm_quoted : readTerm lookup (colons field.toList ++ (quoted q phrase).toList) =
    (⟨field, [], phrase, true⟩, []) := by
  have hstart := startsQuote_quoted hq phrase
  have hvalue := readValue_quoted hq hne hnot
  cases field with
  | none =>
    show readTerm lookup (quoted q phrase).toList = _
    rw [readTerm, readFieldTerm?_of_startsQuote lookup hstart, Option.getD_none, readBareTerm,
      hvalue]
  | some f =>
    obtain ⟨hlookup, hname⟩ := hfield f rfl
    have htext : colons (some f).toList ++ (quoted q phrase).toList =
        f.toList ++ ':' :: (quoted q phrase).toList := by
      simp [colons]
    have hkeys := readKeys_of_none (cutKey?_of_startsQuote hstart)
    rw [htext, readTerm, readFieldTerm?,
      cutFieldName?_of_isFieldName hname (startsBlank_quoted hq phrase)]
    simp only [String.ofList_toList, hlookup, hkeys, hvalue, Option.getD_some]

theorem compile_quoted {query : String}
    (hquery : query.toList = colons field.toList ++ (quoted q phrase).toList) :
    compile lookup query = termPatterns ⟨field, [], phrase, true⟩ := by
  have hblank : startsBlank (colons field.toList ++ (quoted q phrase).toList) = false := by
    cases field with
    | none => exact startsBlank_quoted hq phrase
    | some f =>
      have hname := (hfield f rfl).2
      simpa [colons] using hname.startsBlank_append (':' :: (quoted q phrase).toList)
  rw [compile, scan, hquery, scanChars_of_not_startsBlank hblank,
    readTerm_quoted hfield hq hne hnot, scanChars_nil, List.flatMap_singleton]

end

/-! ## Loose words -/

theorem termPatterns_phrase {phrase : String} {ws : List String}
    (hwords : words phrase.toList = ws.map String.toList) :
    termPatterns ⟨field, [], phrase, true⟩ =
      ws.flatMap fun w => termPatterns ⟨field, [], w, false⟩ := by
  simp only [termPatterns, Term.words, List.nil_append]
  rw [← flatMap_valueWords_words, hwords, List.flatMap_map, List.map_flatMap, List.map_flatMap]

section

variable {ws : List String} (hws : ∀ w ∈ ws, IsKey w)

include hws

theorem words_eq_map_of_spaced {phrase : String}
    (hphrase : Spaced (ws.map String.toList) phrase.toList) :
    words phrase.toList = ws.map String.toList := by
  refine words_eq_of_spaced hphrase fun cs hcs => ?_
  obtain ⟨w, hw, rfl⟩ := List.mem_map.mp hcs
  have hrun := (hws w hw).isRun
  exact ⟨mt String.toList_eq_nil_iff.mp hrun.ne_empty, hrun.not_blank⟩

include hfield

theorem compile_loose {query : String}
    (hquery : Spaced (ws.map fun w => colons field.toList ++ w.toList) query.toList) :
    compile lookup query = ws.flatMap fun w => termPatterns ⟨field, [], w, false⟩ := by
  have hterms : ∀ t ∈ ws.map fun w => Term.mk field [] w false, t.Renderable lookup := by
    intro t ht
    obtain ⟨w, hw, rfl⟩ := List.mem_map.mp ht
    exact (hws w hw).renderable hfield
  have hspaced : Spaced ((ws.map fun w => Term.mk field [] w false).map Term.render)
      query.toList := by
    simpa [Term.render, renderValue, Function.comp_def] using hquery
  rw [compile, scan, scanChars_of_spaced hterms hspaced, List.flatMap_map]

/-! ## Both -/

theorem compile_phrase_eq_compile_loose {q : Char} (hq : isQuote q = true) (hne : ws ≠ [])
    {phrase left right : String} (hphrase : Spaced (ws.map String.toList) phrase.toList)
    (hleft : left.toList = colons field.toList ++ (quoted q phrase).toList)
    (hright : Spaced (ws.map fun w => colons field.toList ++ w.toList) right.toList) :
    compile lookup left = compile lookup right := by
  have hwords := words_eq_map_of_spaced hws hphrase
  have hphrase_ne : phrase ≠ "" := by
    rintro rfl
    exact hne (List.map_eq_nil_iff.mp hwords.symm)
  -- a quote is neither a blank nor part of a word, so the phrase ends no sooner than it should
  have hnot : q ∉ phrase.toList := by
    intro hmem
    rcases hphrase.blank_or_mem hmem with hblank | ⟨cs, hcs, hmem⟩
    · rw [not_blank_of_isQuote hq] at hblank
      cases hblank
    · obtain ⟨w, hw, rfl⟩ := List.mem_map.mp hcs
      have hquote := (endsKey_eq_false_iff.mp ((hws w hw).2 q hmem)).2.2
      rw [hq] at hquote
      cases hquote
  rw [compile_quoted hfield hq hphrase_ne hnot hleft, compile_loose hfield hws hright,
    termPatterns_phrase hwords]

end

end

/-- A phrase asks for what its words ask for when they are typed without quotes, and under a field
for what they ask for when each of them is typed under it. -/
theorem compile_quoted_eq (lookup : FieldLookup) {q : Char} (hq : isQuote q = true)
    {ws : List String} (hne : ws ≠ []) (hws : ∀ w ∈ ws, IsKey w) {phrase query : String}
    (hphrase : Spaced (ws.map String.toList) phrase.toList)
    (hquery : Spaced (ws.map String.toList) query.toList) :
    compile lookup (quoted q phrase) = compile lookup query ∧
      ∀ f, lookup f = some f → IsFieldName f → ∀ fieldQuery : String,
        Spaced (ws.map fun w => (f ++ ":" ++ w).toList) fieldQuery.toList →
          compile lookup (f ++ ":" ++ quoted q phrase) = compile lookup fieldQuery := by
  constructor
  · have hfield : ∀ f ∈ (none : Option String), lookup f = some f ∧ IsFieldName f := by simp
    exact compile_phrase_eq_compile_loose hfield hws hq hne hphrase rfl hquery
  · intro f hlookup hname fieldQuery hfieldQuery
    have hfield : ∀ g ∈ some f, lookup g = some g ∧ IsFieldName g := fun g hg =>
      Option.some.inj hg ▸ ⟨hlookup, hname⟩
    have htyped (text : String) : (f ++ ":" ++ text).toList = colons [f] ++ text.toList := by
      simp [colons]
    simp only [htyped] at hfieldQuery
    exact compile_phrase_eq_compile_loose hfield hws hq hne hphrase (htyped _) hfieldQuery

/-- The second word has nothing in it to look for. -/
def rockAndRoll : List String := ["Rock", "&", "(roll)"]

theorem compile_quoted_rockAndRoll :
    isQuote '\'' = true ∧ rockAndRoll ≠ [] ∧ (∀ w ∈ rockAndRoll, IsKey w) ∧
      Spaced (rockAndRoll.map String.toList) " Rock\t&  (roll) ".toList ∧
      Spaced (rockAndRoll.map String.toList) "Rock & (roll)".toList ∧
      lookupIn ["title"] "title" = some "title" ∧ IsFieldName "title" ∧
      Spaced (rockAndRoll.map fun w => ("title" ++ ":" ++ w).toList)
        "title:Rock title:& title:(roll)".toList ∧
      compile (lookupIn ["title"]) (quoted '\'' " Rock\t&  (roll) ") =
        compile (lookupIn ["title"]) "Rock & (roll)" ∧
      compile (lookupIn ["title"]) ("title" ++ ":" ++ quoted '\'' " Rock\t&  (roll) ") =
        compile (lookupIn ["title"]) "title:Rock title:& title:(roll)" := by
  have hspaced {parts : List (List Char)} {text : String} (h : words text.toList = parts) :
      Spaced parts text.toList := h ▸ spaced_words text.toList
  have hne : rockAndRoll ≠ [] := List.cons_ne_nil _ _
  have hws : ∀ w ∈ rockAndRoll, IsKey w := by decide +kernel
  have hphrase : Spaced (rockAndRoll.map String.toList) " Rock\t&  (roll) ".toList :=
    hspaced (by decide +kernel)
  have hquery : Spaced (rockAndRoll.map String.toList) "Rock & (roll)".toList :=
    hspaced (by decide +kernel)
  have hfieldQuery : Spaced (rockAndRoll.map fun w => ("title" ++ ":" ++ w).toList)
      "title:Rock title:& title:(roll)".toList := hspaced (by decide +kernel)
  have hlookup : lookupIn ["title"] "title" = some "title" := by decide +kernel
  have hname : IsFieldName "title" := by decide +kernel
  obtain ⟨hbare, hunder⟩ :=
    compile_quoted_eq (lookupIn ["title"]) (q := '\'') rfl hne hws hphrase hquery
  exact ⟨rfl, hne, hws, hphrase, hquery, hlookup, hname, hfieldQuery, hbare,
    hunder "title" hlookup hname _ hfieldQuery⟩

end RecordSearch.Query
