import RecordSearch.Proofs.Index.TokenChars
import RecordSearch.Proofs.Query.Patterns
import RecordSearch.Proofs.Query.Rendering
import RecordSearch.Proofs.Registry.ExposedPaths
import RecordSearch.Proofs.Text.AsciiCase

/-!
Which searchable fields a query can name. Names are taken from the schema as they are, so a name may
be one that no query can type. A field is asked for with `name:word` if its name can be typed, and
by no query at all otherwise (`compile_name_word`); the names of a type can all be typed if the
texts they are made of allow it (`FieldPath.isFieldName_name_iff`).
-/

namespace RecordSearch

open RecordSearch.Text RecordSearch.Query RecordSearch.Index

/-! ## Plain words -/

/-- A word of the letters `a` to `z`. -/
structure IsPlainWord (w : String) : Prop where
  ne_empty : w ≠ ""
  small : ∀ c ∈ w.toList, 'a' ≤ c ∧ c ≤ 'z'

namespace Query.Term

theorem trimWord_of_isWordChar {cs : List Char} (h : ∀ c ∈ cs, isWordChar c = true) :
    trimWord cs = cs := by
  have hstay : ∀ ds : List Char, (∀ c ∈ ds, isWordChar c = true) →
      ds.dropWhile (!isWordChar ·) = ds := by
    intro ds hds
    cases ds with
    | nil => rfl
    | cons d ds => simp [hds d (List.mem_cons_self ..)]
  rw [trimWord, hstay cs h, hstay cs.reverse fun c hc => h c (List.mem_reverse.mp hc),
    List.reverse_reverse]

end Query.Term

namespace IsPlainWord

variable {w : String} (hw : IsPlainWord w)

include hw

theorem bounds {c : Char} (hc : c ∈ w.toList) : 97 ≤ c.toNat ∧ c.toNat ≤ 122 :=
  hw.small c hc

theorem not_blank {c : Char} (hc : c ∈ w.toList) : isBlank c = false := by
  obtain ⟨hlow, hhigh⟩ := hw.bounds hc
  exact not_inRanges_of_apart (by decide) hlow hhigh

theorem isWordChar {c : Char} (hc : c ∈ w.toList) : isWordChar c = true := by
  obtain ⟨hlow, hhigh⟩ := hw.bounds hc
  have halphanumeric : isAlphanumeric c = true := inRanges_of_covers (by decide) hlow hhigh
  simp [Text.isWordChar, halphanumeric]

theorem ne_of_lt {c d : Char} (hc : c ∈ w.toList) (hd : d.toNat < 97) : c ≠ d := by
  rintro rfl
  have hlow := (hw.bounds hc).1
  omega

theorem not_quote {c : Char} (hc : c ∈ w.toList) : isQuote c = false := by
  simp [isQuote, hw.ne_of_lt hc (show '"'.toNat < 97 by decide),
    hw.ne_of_lt hc (show '\''.toNat < 97 by decide)]

theorem lowerAscii_eq {c : Char} (hc : c ∈ w.toList) : lowerAscii c = c := by
  refine if_neg ?_
  rintro ⟨-, hZ⟩
  have hhigh : c.toNat ≤ 90 := hZ
  have hlow := (hw.bounds hc).1
  omega

theorem lower_eq : lower w = w := by
  have hascii : IsAscii w.toList := by
    intro c hc
    have hhigh := (hw.bounds hc).2
    omega
  have hsmall := map_lowerAscii_eq_self_iff.mpr fun c hc => hw.lowerAscii_eq hc
  rw [lower, lowerChars_of_ascii hascii, hsmall, String.ofList_toList]

theorem termPatterns_eq (name : String) :
    termPatterns ⟨some name, [], w, false⟩ = [⟨.exact name, w, true⟩] := by
  have hne : w.toList ≠ [] := mt String.toList_eq_nil_iff.mp hw.ne_empty
  have htrim : Term.trimWord w.toList = w.toList :=
    Term.trimWord_of_isWordChar fun c hc => hw.isWordChar hc
  have hwords : Term.valueWords w.toList = [w.toList] := by
    rw [Term.valueWords, words_of_not_blank hne fun c hc => hw.not_blank hc]
    simp [htrim, hne]
  simp [termPatterns, Term.words, hwords, Pattern.ofWord, hw.lower_eq, Scope.ofField]

theorem isKey : IsKey w :=
  ⟨hw.ne_empty, fun _ hc => endsKey_eq_false_iff.mpr
    ⟨hw.not_blank hc, hw.ne_of_lt hc (by decide), hw.not_quote hc⟩⟩

end IsPlainWord

/-! ## Names that can be typed -/

theorem startsQuote_lowerChars (cs : List Char) : startsQuote (lowerChars cs) = startsQuote cs := by
  cases cs with
  | nil => rfl
  | cons c cs =>
    obtain ⟨d, ds, hlower, hd⟩ := exists_cons_lowerChars c cs
    rw [hlower]
    show isQuote d = isQuote c
    rcases hd with rfl | ⟨hmark, hsmall⟩
    · rfl
    · have hc : isQuote c = false := by
        rw [Bool.eq_false_iff]
        intro hquote
        rw [isMark_of_isQuote c hquote] at hmark
        cases hmark
      rw [hc, (tokenChar_of_isSmallLetter hsmall).not_quote]

theorem isMark_of_endsFieldName (c : Char) (h : endsFieldName c = true) : isMark c = true := by
  simp only [endsFieldName, Bool.or_eq_true, decide_eq_true_eq] at h
  rcases h with hblank | rfl
  · exact isMark_of_isBlank c hblank
  · decide

/-- What keeps a name from being typed is not a matter of case. -/
theorem isFieldName_of_lower_eq {name typed : String} (hlower : lower name = lower typed)
    (h : IsFieldName typed) : IsFieldName name := by
  have hchars : lowerChars name.toList = lowerChars typed.toList := by
    rw [← toList_lower, hlower, toList_lower]
  refine ⟨?_, ?_, ?_⟩
  · rintro rfl
    exact lowerChars_ne_nil (mt String.toList_eq_nil_iff.mp h.ne_empty) hchars.symm
  · intro c hc
    rw [Bool.eq_false_iff]
    intro hends
    have hmark := isMark_of_endsFieldName c hends
    have htyped : c ∈ typed.toList := by
      rwa [← mem_lowerChars_iff hmark, ← hchars, mem_lowerChars_iff hmark]
    rw [h.not_ends c htyped] at hends
    cases hends
  · rw [← startsQuote_lowerChars, hchars, startsQuote_lowerChars]
    exact h.not_quote

/-! ## Names of paths -/

namespace FieldPath

/-- The texts the name is made of, with underscores between them. -/
def parts (p : FieldPath) : List String := p.segments ++ [p.leafName]

/-- The name can be typed as far as the texts it is made of are concerned. -/
structure Typeable (p : FieldPath) : Prop where
  ne_empty : p.parts ≠ [""]
  not_ends : ∀ part ∈ p.parts, ∀ c ∈ part.toList, endsFieldName c = false
  not_quote : ∀ part ∈ p.parts.head?, startsQuote part.toList = false

theorem toList_intercalate_cons (part : String) (parts : List String) :
    ("_".intercalate (part :: parts)).toList =
      part.toList ++ parts.flatMap fun other => '_' :: other.toList := by
  induction parts generalizing part with
  | nil => simp
  | cons other parts ih =>
    rw [String.intercalate_cons_of_ne_nil (List.cons_ne_nil _ _), String.toList_append,
      String.toList_append, ih, List.flatMap_cons, List.append_assoc]
    rfl

theorem exists_toList_name (p : FieldPath) : ∃ part parts, p.parts = part :: parts ∧
    p.name.toList = part.toList ++ parts.flatMap fun other => '_' :: other.toList := by
  obtain ⟨part, parts, hparts⟩ : ∃ part parts, p.parts = part :: parts :=
    List.exists_cons_of_ne_nil (List.append_ne_nil_of_right_ne_nil _ (by simp))
  refine ⟨part, parts, hparts, ?_⟩
  rw [← toList_intercalate_cons, ← hparts]
  rfl

theorem name_eq_empty_iff (p : FieldPath) : p.name = "" ↔ p.parts = [""] := by
  obtain ⟨part, parts, hparts, hname⟩ := p.exists_toList_name
  rw [← String.toList_eq_nil_iff, hname, hparts]
  cases parts <;> simp

/-- The underscores between the parts end no name. -/
theorem not_ends_name_iff (p : FieldPath) :
    (∀ c ∈ p.name.toList, endsFieldName c = false) ↔
      ∀ part ∈ p.parts, ∀ c ∈ part.toList, endsFieldName c = false := by
  obtain ⟨part, parts, hparts, hname⟩ := p.exists_toList_name
  rw [hname, hparts, List.forall_mem_append, List.forall_mem_cons]
  refine and_congr_right fun _ => ⟨?_, ?_⟩
  · intro hall other hother c hc
    exact hall c (List.mem_flatMap.mpr ⟨other, hother, List.mem_cons_of_mem _ hc⟩)
  · intro hall c hc
    obtain ⟨other, hother, hc⟩ := List.mem_flatMap.mp hc
    rcases List.mem_cons.mp hc with rfl | hc
    · decide
    · exact hall other hother c hc

theorem startsQuote_name_iff (p : FieldPath) :
    startsQuote p.name.toList = false ↔ ∀ part ∈ p.parts.head?, startsQuote part.toList = false := by
  obtain ⟨part, parts, hparts, hname⟩ := p.exists_toList_name
  have hquote : startsQuote p.name.toList = startsQuote part.toList := by
    rw [hname]
    cases part.toList with
    | cons c cs => rfl
    | nil => cases parts <;> rfl
  rw [hquote, hparts]
  simp

theorem isFieldName_name_iff (p : FieldPath) : IsFieldName p.name ↔ p.Typeable := by
  constructor
  · rintro ⟨hne, hchars, hstart⟩
    exact ⟨mt p.name_eq_empty_iff.mpr hne, p.not_ends_name_iff.mp hchars,
      p.startsQuote_name_iff.mp hstart⟩
  · rintro ⟨hne, hchars, hstart⟩
    exact ⟨mt p.name_eq_empty_iff.mp hne, p.not_ends_name_iff.mpr hchars,
      p.startsQuote_name_iff.mpr hstart⟩

end FieldPath

/-! ## Asking for a field -/

section

variable {r : FieldRegistry} {name : String}

theorem compile_of_isFieldName (hmem : name ∈ r.names) (hname : IsFieldName name) {w : String}
    (hw : IsPlainWord w) : compile r.lookup (name ++ ":" ++ w) = [⟨.exact name, w, true⟩] := by
  have hfield : ∀ f ∈ some name, r.lookup f = some f ∧ IsFieldName f := fun f hf =>
    Option.some.inj hf ▸ ⟨FieldRegistry.lookup_of_mem hmem, hname⟩
  have ht := hw.isKey.renderable hfield
  have htext : (name ++ ":" ++ w).toList =
      Term.render ⟨some name, [], w, false⟩ ++ [] := by
    simp [Term.render, colons, renderValue]
  rw [compile, scan, htext, scanChars_render ht (Or.inl rfl), scanChars_nil,
    List.flatMap_singleton, hw.termPatterns_eq]

theorem isFieldName_of_mem_compile {query : String} {p : Pattern} (hp : p ∈ compile r.lookup query)
    (hscope : p.scope = .exact name) : IsFieldName name := by
  obtain ⟨typed, hlookup, htyped⟩ := exists_isFieldName_of_mem_compile hp hscope
  exact isFieldName_of_lower_eq (FieldRegistry.lower_of_lookup hlookup) htyped

end

theorem mem_names_iff {s : Schema} {type name : String} {r : FieldRegistry}
    (h : s.registry type = .ok r) : name ∈ r.names ↔ ∃ p, Exposed s type p ∧ p.name = name := by
  have hr := registry_eq_ok_iff.mp h
  rw [hr.eq_insertAll, FieldRegistry.names_insertAll_empty, List.mem_eraseDups, List.map_map]
  simp only [List.mem_map, mem_exposedPaths_iff hr]
  rfl

/-- A name that can be typed asks for its field, and any other is asked for by no query. -/
theorem compile_name_word {s : Schema} {type : String} {r : FieldRegistry}
    (h : s.registry type = .ok r) :
    (∀ name ∈ r.names,
      IsFieldName name ∧ (∀ w, IsPlainWord w →
        compile r.lookup (name ++ ":" ++ w) = [⟨.exact name, w, true⟩]) ∨
      ¬ IsFieldName name ∧ ∀ query, ∀ p ∈ compile r.lookup query, p.scope ≠ .exact name) ∧
    ((∀ name ∈ r.names, ∀ w, IsPlainWord w →
        compile r.lookup (name ++ ":" ++ w) = [⟨.exact name, w, true⟩]) ↔
      ∀ p, Exposed s type p → p.Typeable) := by
  refine ⟨?_, ?_, ?_⟩
  · intro name hmem
    by_cases hname : IsFieldName name
    · exact .inl ⟨hname, fun w hw => compile_of_isFieldName hmem hname hw⟩
    · exact .inr ⟨hname, fun query p hp hscope => hname (isFieldName_of_mem_compile hp hscope)⟩
  · intro hall p hp
    have ha : IsPlainWord "a" := ⟨by decide, by simp⟩
    have hcompile := hall p.name ((mem_names_iff h).mpr ⟨p, hp, rfl⟩) "a" ha
    have hpattern : (⟨.exact p.name, "a", true⟩ : Pattern) ∈
        compile r.lookup (p.name ++ ":" ++ "a") := by
      rw [hcompile]
      exact List.mem_singleton_self _
    exact p.isFieldName_name_iff.mp (isFieldName_of_mem_compile hpattern rfl)
  · intro hall name hmem w hw
    obtain ⟨p, hp, rfl⟩ := (mem_names_iff h).mp hmem
    exact compile_of_isFieldName hmem (p.isFieldName_name_iff.mpr (hall p hp)) hw

/-- One field goes by a name of two words, the other by its own. -/
def filmSchema : Schema := Schema.empty.insert "film" (.ofParts ["title", "years"] []
  [⟨"title", { SearchOptions.empty with aliasName := some "film title" }⟩, ⟨"years", .empty⟩])

def filmNames : FieldRegistry := (FieldRegistry.empty "film").insertAll
  [.direct "film" ⟨"title", { SearchOptions.empty with aliasName := some "film title" }⟩,
    .direct "film" ⟨"years", .empty⟩]

theorem registry_filmSchema : filmSchema.registry "film" = .ok filmNames := by cbv

theorem compile_filmNames : filmSchema.registry "film" = .ok filmNames ∧
    compile filmNames.lookup "year:heat" = [⟨.exact "year", "heat", true⟩] ∧
    ∀ query, ∀ p ∈ compile filmNames.lookup query, p.scope ≠ .exact "film title" := by
  have hnames : filmNames.names = ["film title", "year"] := by decide +kernel
  obtain ⟨hname, -⟩ := compile_name_word registry_filmSchema
  have hheat : IsPlainWord "heat" := ⟨by decide, by simp⟩
  refine ⟨registry_filmSchema, ?_, ?_⟩
  · rcases hname "year" (by simp [hnames]) with ⟨-, hcompile⟩ | ⟨hnot, -⟩
    · exact hcompile "heat" hheat
    · exact absurd (by decide +kernel) hnot
  · rcases hname "film title" (by simp [hnames]) with ⟨htyped, -⟩ | ⟨-, hnone⟩
    · exact absurd htyped (by decide +kernel)
    · exact hnone

/-- The schema is valid, and nothing can be asked of its first field. -/
theorem not_forall_compile_name_word :
    ¬ ∀ (s : Schema) (type : String) (r : FieldRegistry), s.registry type = .ok r →
      ∀ name ∈ r.names, ∀ w, IsPlainWord w →
        compile r.lookup (name ++ ":" ++ w) = [⟨.exact name, w, true⟩] := by
  intro h
  have hmem : "film title" ∈ filmNames.names := by decide +kernel
  have hheat : IsPlainWord "heat" := ⟨by decide, by simp⟩
  have hcompile := h filmSchema "film" filmNames registry_filmSchema "film title" hmem "heat" hheat
  exact absurd hcompile (by decide +kernel)

end RecordSearch
