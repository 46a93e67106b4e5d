import RecordSearch.Proofs.Query.Parts

/-!
Terms as they are typed. A term is written as its field and its keys, each with a colon after it, and
then its value, between double quotes if it is a phrase. Terms that are fit to be written so
(`Term.Renderable`) are scanned back from the text, each on its own, whatever follows it after a blank
(`readTerm_render`), and so are the terms of a query (`scan_render`).
-/

namespace RecordSearch.Query

open RecordSearch.Text

/-! ## Writing -/

def renderValue (value : String) (phrase : Bool) : List Char :=
  if phrase then '"' :: value.toList ++ ['"'] else value.toList

def Term.render (t : Term) : List Char :=
  colons (t.field.toList ++ t.keys) ++ renderValue t.value t.phrase

/-- The terms with a space between them. -/
def render (ts : List Term) : String := String.ofList ([' '].intercalate (ts.map Term.render))

/-- What can be typed as a value without quotes. -/
structure IsRun (value : String) : Prop where
  ne_empty : value ≠ ""
  not_blank : ∀ c ∈ value.toList, isBlank c = false
  not_quote : startsQuote value.toList = false

/-- What comes before the first colon of the text does not name a field, or nothing comes after. -/
def NamesNoField (lookup : FieldLookup) (cs : List Char) : Prop :=
  ∀ parts ∈ splitAtFirst ':' cs,
    parts.1 = [] ∨ lookup (String.ofList parts.1) = none ∨ parts.2 = []

/-- The term can be typed, and is then not taken for another. -/
structure Term.Renderable (lookup : FieldLookup) (t : Term) : Prop where
  field : ∀ f ∈ t.field, lookup f = some f ∧ IsFieldName f
  keys_eq_nil : t.field = none → t.keys = []
  isKey : ∀ key ∈ t.keys, IsKey key
  phrase : t.phrase = true → t.value ≠ "" ∧ '"' ∉ t.value.toList
  run : t.phrase = false → IsRun t.value
  not_colon : t.phrase = false → t.field ≠ none → ':' ∉ t.value.toList
  namesNoField : t.phrase = false → t.field = none → NamesNoField lookup t.value.toList

/-! ### Deciding -/

instance (name : String) : Decidable (IsFieldName name) :=
  decidable_of_iff (name ≠ "" ∧ name.toList.all (!endsFieldName ·) = true ∧
      startsQuote name.toList = false)
    ⟨fun ⟨h₁, h₂, h₃⟩ => ⟨h₁, by simpa using h₂, h₃⟩,
      fun ⟨h₁, h₂, h₃⟩ => ⟨h₁, by simpa using h₂, h₃⟩⟩

instance (value : String) : Decidable (IsRun value) :=
  decidable_of_iff (value ≠ "" ∧ value.toList.all (!isBlank ·) = true ∧
      startsQuote value.toList = false)
    ⟨fun ⟨h₁, h₂, h₃⟩ => ⟨h₁, by simpa using h₂, h₃⟩,
      fun ⟨h₁, h₂, h₃⟩ => ⟨h₁, by simpa using h₂, h₃⟩⟩

instance (lookup : FieldLookup) (cs : List Char) : Decidable (NamesNoField lookup cs) :=
  inferInstanceAs (Decidable (∀ parts ∈ splitAtFirst ':' cs, _))

instance (lookup : FieldLookup) (t : Term) : Decidable (t.Renderable lookup) :=
  decidable_of_iff ((∀ f ∈ t.field, lookup f = some f ∧ IsFieldName f) ∧
      (t.field = none → t.keys = []) ∧ (∀ key ∈ t.keys, IsKey key) ∧
      (t.phrase = true → t.value ≠ "" ∧ '"' ∉ t.value.toList) ∧
      (t.phrase = false → IsRun t.value) ∧
      (t.phrase = false → t.field ≠ none → ':' ∉ t.value.toList) ∧
      (t.phrase = false → t.field = none → NamesNoField lookup t.value.toList))
    ⟨fun ⟨h₁, h₂, h₃, h₄, h₅, h₆, h₇⟩ => ⟨h₁, h₂, h₃, h₄, h₅, h₆, h₇⟩,
      fun ⟨h₁, h₂, h₃, h₄, h₅, h₆, h₇⟩ => ⟨h₁, h₂, h₃, h₄, h₅, h₆, h₇⟩⟩

/-! ## Reading back -/

theorem cutKey?_of_startsQuote {cs : List Char} (h : startsQuote cs = true) :
    cutKey? cs = none := by
  cases hcut : cutKey? cs with
  | none => rfl
  | some p =>
    obtain ⟨key, after⟩ := p
    obtain ⟨hcut, hne⟩ := cutAtColon?_of_cutKey? hcut
    obtain ⟨heq, hstop⟩ := eq_of_cutAtColon? hcut
    obtain ⟨c, key, rfl⟩ := List.exists_cons_of_ne_nil hne
    have hc : endsKey c = false := hstop c (List.mem_cons_self ..)
    rw [heq] at h
    exact absurd (h.symm.trans (endsKey_eq_false_iff.mp hc).2.2) (by decide)

section

variable {rest : List Char} (hrest : BlankFirst rest)

theorem readPhrase?_of_quotes {q : Char} (hq : isQuote q = true) {phrase : List Char}
    (hne : phrase ≠ []) (hnot : q ∉ phrase) (rest : List Char) :
    readPhrase? (q :: phrase ++ q :: rest) = some (phrase, rest) := by
  have hsplit : splitAtFirst q (phrase ++ q :: rest) = some (phrase, rest) :=
    splitAtFirst_eq_some_iff.mpr ⟨rfl, hnot⟩
  obtain ⟨c, cs, rfl⟩ := List.exists_cons_of_ne_nil hne
  rw [List.cons_append, readPhrase?, if_pos hq, hsplit]

include hrest

theorem readValue_run {value : String} (h : IsRun value) :
    readValue (value.toList ++ rest) = (value, false, rest) := by
  rw [readValue_append hrest h.not_quote, readValue_of_run h.not_quote h.not_blank,
    String.ofList_toList, List.nil_append]

theorem readValue_renderValue {value : String} {phrase : Bool}
    (hphrase : phrase = true → value ≠ "" ∧ '"' ∉ value.toList)
    (hrun : phrase = false → IsRun value) :
    readValue (renderValue value phrase ++ rest) = (value, phrase, rest) := by
  cases phrase with
  | true =>
    obtain ⟨hne, hquote⟩ := hphrase rfl
    have hread := readPhrase?_of_quotes rfl (mt String.toList_eq_nil_iff.mp hne) hquote rest
    rw [renderValue, if_pos rfl, List.append_assoc, List.singleton_append, readValue, hread]
    simp only [String.ofList_toList]
  | false => exact readValue_run hrest (hrun rfl)

/-- A value is not taken for a key. -/
theorem cutKey?_renderValue {value : String} {phrase : Bool}
    (hcolon : phrase = false → ':' ∉ value.toList) :
    cutKey? (renderValue value phrase ++ rest) = none := by
  cases phrase with
  | true => exact cutKey?_of_startsQuote rfl
  | false =>
    cases hcut : cutKey? (renderValue value false ++ rest) with
    | none => rfl
    | some p =>
      rw [cutKey?_append hrest, Option.map_eq_some_iff] at hcut
      obtain ⟨⟨key, after⟩, hcut, -⟩ := hcut
      have heq := (eq_of_cutAtColon? (cutAtColon?_of_cutKey? hcut).1).1
      have hmem : ':' ∈ value.toList := by
        rw [show value.toList = _ from heq]
        simp
      exact absurd hmem (hcolon rfl)

end

theorem cutKey?_of_isKey {key : String} (h : IsKey key) (rest : List Char) :
    cutKey? (key.toList ++ ':' :: rest) = some (key.toList, rest) := by
  have hne : key.toList ≠ [] := mt String.toList_eq_nil_iff.mp h.1
  simp [cutKey?, cutAtColon?_append rfl h.2, hne]

theorem readKeys_colons {keys : List String} (hkeys : ∀ key ∈ keys, IsKey key) {rest : List Char}
    (hrest : cutKey? rest = none) : readKeys (colons keys ++ rest) = (keys, rest) := by
  induction keys with
  | nil => exact readKeys_of_none hrest
  | cons key keys ih =>
    rw [List.forall_mem_cons] at hkeys
    have htext : colons (key :: keys) ++ rest = key.toList ++ ':' :: (colons keys ++ rest) := by
      simp [colons]
    rw [htext, readKeys_of_some (cutKey?_of_isKey hkeys.1 _), ih hkeys.2, String.ofList_toList]

theorem readFieldTerm?_of_startsQuote (lookup : FieldLookup) {cs : List Char}
    (h : startsQuote cs = true) : readFieldTerm? lookup cs = none := by
  cases hcut : cutFieldName? cs with
  | none => simp [readFieldTerm?, hcut]
  | some p =>
    obtain ⟨hcut, hne, hquote, -⟩ := cutAtColon?_of_cutFieldName? hcut
    obtain ⟨c, typed, htyped⟩ := List.exists_cons_of_ne_nil hne
    rw [(eq_of_cutAtColon? hcut).1, htyped] at h
    rw [htyped] at hquote
    exact absurd (h.symm.trans hquote) (by decide)

/-! ## Terms -/

theorem IsKey.isRun {w : String} (h : IsKey w) : IsRun w where
  ne_empty := h.1
  not_blank c hc := (endsKey_eq_false_iff.mp (h.2 c hc)).1
  not_quote := h.isFieldName.not_quote

/-- A word without colons and quotes can be typed anywhere. -/
theorem IsKey.renderable {lookup : FieldLookup} {field : Option String}
    (hfield : ∀ f ∈ field, lookup f = some f ∧ IsFieldName f) {w : String} (hw : IsKey w) :
    Term.Renderable lookup ⟨field, [], w, false⟩ where
  field := hfield
  keys_eq_nil _ := rfl
  isKey key hkey := by cases hkey
  phrase h := by cases h
  run _ := hw.isRun
  not_colon _ _ := hw.not_mem_colon
  namesNoField _ _ parts hparts := by
    rw [splitAtFirst_eq_none_iff.mpr hw.not_mem_colon] at hparts
    cases hparts

theorem startsBlank_colons_append {keys : List String} (hkeys : ∀ key ∈ keys, IsKey key)
    {cs : List Char} (hcs : startsBlank cs = false) : startsBlank (colons keys ++ cs) = false := by
  cases keys with
  | nil => exact hcs
  | cons key keys =>
    have hkey := hkeys key (List.mem_cons_self ..)
    simp only [colons, List.flatMap_cons, List.append_assoc]
    exact hkey.isFieldName.startsBlank_append _

theorem render_of_field {t : Term} {f : String} (hf : t.field = some f) :
    t.render = f.toList ++ ':' :: (colons t.keys ++ renderValue t.value t.phrase) := by
  simp [Term.render, hf, colons]

section

variable {lookup : FieldLookup} {t : Term} (ht : t.Renderable lookup) {rest : List Char}
  (hrest : BlankFirst rest)

include ht

theorem startsBlank_renderValue : startsBlank (renderValue t.value t.phrase) = false := by
  cases hphrase : t.phrase with
  | true => rfl
  | false =>
    have hrun := ht.run hphrase
    obtain ⟨c, cs, hvalue⟩ :=
      List.exists_cons_of_ne_nil (mt String.toList_eq_nil_iff.mp hrun.ne_empty)
    have hc := hrun.not_blank c (by simp [hvalue])
    simpa [renderValue, hvalue, startsBlank] using hc

theorem render_of_bare (hnone : t.field = none) : t.render = renderValue t.value t.phrase := by
  simp [Term.render, hnone, ht.keys_eq_nil hnone, colons]

theorem startsBlank_render : startsBlank t.render = false := by
  cases hf : t.field with
  | none =>
    rw [render_of_bare ht hf]
    exact startsBlank_renderValue ht
  | some f =>
    obtain ⟨-, hname⟩ := ht.field f hf
    rw [render_of_field hf]
    exact hname.startsBlank_append _

include hrest

theorem readFieldTerm?_render_of_field {f : String} (hf : t.field = some f) :
    readFieldTerm? lookup (t.render ++ rest) = some (t, rest) := by
  obtain ⟨hlookup, hname⟩ := ht.field f hf
  have hcolon (hphrase : t.phrase = false) : ':' ∉ t.value.toList :=
    ht.not_colon hphrase (by simp [hf])
  have htext : t.render ++ rest = f.toList ++ ':' ::
      (colons t.keys ++ (renderValue t.value t.phrase ++ rest)) := by
    simp [render_of_field hf]
  have hblank : startsBlank (colons t.keys ++ (renderValue t.value t.phrase ++ rest)) = false :=
    startsBlank_colons_append ht.isKey
      ((startsBlank_append hrest _).trans (startsBlank_renderValue ht))
  have hcut := cutFieldName?_of_isFieldName hname hblank
  have hkeys := readKeys_colons ht.isKey (cutKey?_renderValue hrest hcolon)
  have hvalue := readValue_renderValue hrest ht.phrase ht.run
  rw [htext, readFieldTerm?, hcut]
  simp only [String.ofList_toList, hlookup, hkeys, hvalue]
  cases t
  cases hf
  rfl

theorem readFieldTerm?_render_of_bare (hnone : t.field = none) :
    readFieldTerm? lookup (t.render ++ rest) = none := by
  rw [render_of_bare ht hnone]
  cases hphrase : t.phrase with
  | true => exact readFieldTerm?_of_startsQuote lookup rfl
  | false =>
    rw [renderValue, if_neg (by decide), readFieldTerm?, cutFieldName?_append hrest]
    cases hcut : cutFieldName? t.value.toList with
    | none => rfl
    | some p =>
      obtain ⟨typed, after⟩ := p
      obtain ⟨hcut, hne, -, hblank⟩ := cutAtColon?_of_cutFieldName? hcut
      obtain ⟨hvalue, hstop⟩ := eq_of_cutAtColon? hcut
      have hcolon : ':' ∉ typed := fun hmem => absurd (hstop ':' hmem) (by decide)
      have hparts := splitAtFirst_eq_some_iff.mpr ⟨hvalue, hcolon⟩
      rcases ht.namesNoField hphrase hnone _ hparts with hnil | hlookup | (hnil : after = [])
      · exact absurd hnil hne
      · simp [hlookup]
      · rw [hnil] at hblank
        cases hblank

/-- What follows a term after a blank does not disturb its reading. -/
theorem readTerm_render : readTerm lookup (t.render ++ rest) = (t, rest) := by
  cases hf : t.field with
  | some f => rw [readTerm, readFieldTerm?_render_of_field ht hrest hf, Option.getD_some]
  | none =>
    rw [readTerm, readFieldTerm?_render_of_bare ht hrest hf, Option.getD_none, readBareTerm,
      render_of_bare ht hf, readValue_renderValue hrest ht.phrase ht.run]
    have hkeys := ht.keys_eq_nil hf
    cases t
    cases hf
    cases hkeys
    rfl

theorem scanChars_render :
    scanChars lookup (t.render ++ rest) = t :: scanChars lookup rest := by
  have hblank : startsBlank (t.render ++ rest) = false :=
    (startsBlank_append hrest _).trans (startsBlank_render ht)
  rw [scanChars_of_not_startsBlank hblank, readTerm_render ht hrest]

end

/-! ## Queries -/

theorem scanChars_of_spaced {lookup : FieldLookup} {ts : List Term}
    (hts : ∀ t ∈ ts, t.Renderable lookup) {cs : List Char} (h : Spaced (ts.map Term.render) cs) :
    scanChars lookup cs = ts := by
  induction ts generalizing cs with
  | nil =>
    cases h with
    | nil hgap => exact scanChars_of_skipBlanks_nil (List.dropWhile_eq_nil_iff.mpr hgap)
  | cons t ts ih =>
    obtain ⟨ht, hts⟩ := List.forall_mem_cons.mp hts
    cases h with
    | cons hgap hcut hrest =>
      rw [List.append_assoc, scanChars_append_blanks hgap, scanChars_render ht hcut, ih hts hrest]

theorem scanChars_intercalate {lookup : FieldLookup} {ts : List Term}
    (hts : ∀ t ∈ ts, t.Renderable lookup) :
    scanChars lookup ([' '].intercalate (ts.map Term.render)) = ts :=
  scanChars_of_spaced hts (spaced_intercalate isBlank_space _)

/-- Terms that are typed one after another are scanned back as they are. -/
theorem scan_render {lookup : FieldLookup} {ts : List Term}
    (hts : ∀ t ∈ ts, t.Renderable lookup) : scan lookup (render ts) = ts := by
  rw [scan, render, String.toList_ofList]
  exact scanChars_intercalate hts

/-- Colons and quotes stand wherever they may. -/
def mixedTerms : List Term :=
  [⟨some "meta", ["cast", "(uncut)"], "it's: a wrap", true⟩, ⟨none, [], "meta: x", true⟩,
    ⟨none, [], ":x", false⟩, ⟨none, [], "d:e\"f", false⟩, ⟨none, [], "title:", false⟩,
    ⟨some "title", [], "o'hara", false⟩]

theorem scan_mixedTerms : (∀ t ∈ mixedTerms, t.Renderable (lookupIn ["title", "meta"])) ∧
    render mixedTerms =
      "meta:cast:(uncut):\"it's: a wrap\" \"meta: x\" :x d:e\"f title: title:o'hara" ∧
    scan (lookupIn ["title", "meta"]) (render mixedTerms) = mixedTerms := by
  have hts : ∀ t ∈ mixedTerms, t.Renderable (lookupIn ["title", "meta"]) := by decide +kernel
  exact ⟨hts, by decide +kernel, scan_render hts⟩

end RecordSearch.Query
