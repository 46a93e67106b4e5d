import RecordSearch.Proofs.Command.Indexing
import RecordSearch.Proofs.Command.Running
import RecordSearch.Proofs.Json.RoundTrip

/-!
Adding tokens to records that have them already. Tokens do not count as text of their record, so the
second time changes nothing about records that are read as they were printed
(`index_report_cases`). Printed records are read so if their numbers come back from their text,
which not every binary64 number does (`not_forall_index_again`).
-/

namespace RecordSearch.Command

open RecordSearch.Index RecordSearch.Json RecordSearch.Decimal

variable {c : Config} {r : FieldRegistry} {P : Number → Prop}

theorem fits_texts (n : Nat) (texts : List String) :
    Fits P (n + 1) (.array (texts.map .string)) := by
  refine .array fun x hx => ?_
  obtain ⟨s, -, rfl⟩ := List.mem_map.mp hx
  exact .string s

/-- Tokens are a list in an object, and no deeper. -/
theorem fits_of_indexRecord? {n : Nat} {record out : Json} (hrecord : Fits P (n + 2) record)
    (h : indexRecord? c r record = some out) : Fits P (n + 2) out := by
  obtain ⟨entries, rfl, rfl⟩ := indexRecord?_eq_some_iff.mp h
  cases hrecord with
  | object hes hkeys =>
    have hentries : EntriesFit P (n + 1) entries := ⟨hes, hkeys⟩
    exact (hentries.put (fits_texts n _) c.settings.indexField).object

theorem objects_of_forall₂ {records indexed : List Json}
    (h : List.Forall₂ (fun record out => indexRecord? c r record = some out) records indexed) :
    ∀ record ∈ records, ∃ entries, record = .object entries := by
  induction h with
  | nil => exact List.forall_mem_nil _
  | cons hfirst _ ih =>
    obtain ⟨entries, heq, -⟩ := indexRecord?_eq_some_iff.mp hfirst
    exact List.forall_mem_cons.mpr ⟨⟨entries, heq⟩, ih⟩

theorem fits_of_forall₂ {n : Nat} {records indexed : List Json}
    (hrecords : ∀ record ∈ records, Fits P (n + 2) record)
    (h : List.Forall₂ (fun record out => indexRecord? c r record = some out) records indexed) :
    ∀ out ∈ indexed, Fits P (n + 2) out := by
  induction h with
  | nil => exact List.forall_mem_nil _
  | cons hfirst _ ih =>
    rw [List.forall_mem_cons] at hrecords ⊢
    exact ⟨fits_of_indexRecord? hrecords.1 hfirst, ih hrecords.2⟩

/-- A list of records that was read can be read again with their tokens, and so can a single record
with room for the list around it. -/
theorem fits_indexed {value : Json} (hvalue : Fits Number.InRange (depthLimit - 1) value)
    (hroom : (∃ records, value = .array records) ∨ Fits (fun _ => True) (depthLimit - 2) value)
    {indexed : List Json}
    (h : List.Forall₂ (fun record out => indexRecord? c r record = some out)
      (recordsOf value) indexed) :
    Fits Number.InRange (depthLimit - 1) (.array indexed) := by
  have hrecords : ∀ record ∈ recordsOf value, Fits Number.InRange (124 + 2) record := by
    have hvalue : Fits Number.InRange (126 + 1) value := hvalue
    cases value with
    | array records =>
      cases hvalue with
      | array hxs => exact hxs
    | _ =>
      rcases hroom with ⟨records, heq⟩ | hroom
      · cases heq
      · exact List.forall_mem_singleton.mpr (hvalue.of_fits hroom)
  exact .array (fits_of_forall₂ hrecords h)

theorem readsBack_of_fits {n : Nat} {v : Json} (hv : Fits Number.InRange n v)
    (hreal : ∀ negative magnitude, .real negative magnitude ∈ v.numbers →
      (Number.real negative magnitude).ReadsBack) : ∀ x ∈ v.numbers, x.ReadsBack := by
  intro x hx
  cases x with
  | integer n => exact Number.readsBack_of_inRange (hv.numbers _ hx)
  | real negative magnitude => exact hreal negative magnitude hx

theorem errorLine_not_object (position : Nat) :
    Report.errorLine ("record " ++ toString position ++ " is not a JSON object") =
      "error: record " ++ toString position ++ " is not a JSON object\n" := by
  simp [← String.toList_inj, Report.errorLine]

/-- Either a record is no object, and nothing is printed; or each record is printed with its tokens,
the rest of it as it was. Records that have their tokens are printed as they are, and what was
printed is read as it was, if the numbers that are no integers come back from their text. -/
theorem index_report_cases {loaded : LoadedConfig} {type : String} {t : RecordType}
    {r : FieldRegistry} (ht : loaded.config.schema.get? type = some t)
    (hr : loaded.config.schema.registry type = .ok r)
    (hfield : ∀ d ∈ t.declarations, d.field ≠ loaded.config.settings.indexField)
    {w : Workspace} {path : String} {value : Json} (hvalue : w.Holds path value) :
    (∃ before record after warnings, recordsOf value = before ++ record :: after ∧
      (∀ other ∈ before, ∃ entries, other = .object entries) ∧
      (∀ entries, record ≠ .object entries) ∧
      w.report loaded (.index type path) = ⟨1, "", warnings ++
        ("error: record " ++ toString before.length ++ " is not a JSON object\n")⟩) ∨
    (∀ record ∈ recordsOf value, ∃ entries, record = .object entries) ∧
    ∃ indexed, w.Prints loaded (.index type path) (.array indexed) ∧
      List.Forall₂ (fun record out => ∃ entries entries' tokens, record = .object entries ∧
        out = .object entries' ∧ PutsEntry loaded.config.settings.indexField
          (.array (List.map Json.string tokens)) entries entries') (recordsOf value) indexed ∧
      (∀ (w' : Workspace) path', w'.Holds path' (.array indexed) →
        w'.Prints loaded (.index type path') (.array indexed)) ∧
      ((∀ negative magnitude, .real negative magnitude ∈ (Json.array indexed).numbers →
          (Number.real negative magnitude).ReadsBack) →
        (∃ records, value = .array records) ∨ Fits (fun _ => True) (depthLimit - 2) value →
        ∀ (w' : Workspace) path',
          w'.run (readText path') = .ok (w.report loaded (.index type path)).out →
          w'.Prints loaded (.index type path') (.array indexed)) := by
  rcases indexFrom_cases loaded.config r 0 (recordsOf value) with ⟨indexed, hindexed, hall⟩ |
    ⟨before, bad, after, hrecords, hbefore, hbad, hindexed⟩
  · right
    have hentry : ∀ d ∈ r.fields, d.entry ≠ loaded.config.settings.indexField := by
      intro d hd
      obtain ⟨declared, hdeclared, heq⟩ :=
        (registry_eq_ok_iff.mp hr).entry_declared ht d hd
      rw [← heq]
      exact hfield declared hdeclared
    have hprints := Workspace.prints_index hr hvalue hindexed
    have hagain : ∀ (w' : Workspace) path', w'.Holds path' (.array indexed) →
        w'.Prints loaded (.index type path') (.array indexed) := fun w' path' hholds =>
      Workspace.prints_index hr hholds (indexRecords_indexRecords hentry hall)
    refine ⟨objects_of_forall₂ hall, indexed, hprints, ?_, hagain, ?_⟩
    · refine hall.imp fun record out hout => ?_
      obtain ⟨entries, hrecord, hentries⟩ := indexRecord?_eq_some_iff.mp hout
      exact ⟨entries, _, _, hrecord, hentries, putsEntry_put _ _ _⟩
    · intro hreal hroom w' path' hread
      obtain ⟨text, -, htext⟩ := hvalue
      have hfits := fits_indexed (fits_of_read? htext) hroom hall
      refine hagain w' path' ⟨_, hread, ?_⟩
      rw [hprints.2]
      exact read?_text hfits (readsBack_of_fits hfits hreal)
  · left
    obtain ⟨warnings, hreport⟩ := Workspace.report_index hr hvalue
    rw [Nat.zero_add] at hindexed
    rw [indexReport, indexRecords, hindexed] at hreport
    refine ⟨before, bad, after, warnings, hrecords, ?_, indexRecord?_eq_none_iff.mp hbad, ?_⟩
    · intro other hother
      obtain ⟨out, hout⟩ := Option.ne_none_iff_exists'.mp (hbefore other hother)
      obtain ⟨entries, heq, -⟩ := indexRecord?_eq_some_iff.mp hout
      exact ⟨entries, heq⟩
    · rw [← errorLine_not_object]
      exact hreport

/-! ## Runs -/

/-- A measure is searched by its unit, and not by its value. -/
def measureType : RecordType := .ofParts ["unit"] [] [⟨"unit", .empty⟩]

def measureConfig : LoadedConfig :=
  ⟨".glean.toml", ⟨⟨"words", false⟩, Schema.empty.insert "measure" measureType⟩⟩

def measureFields : FieldRegistry :=
  (FieldRegistry.empty "measure").insert (.direct "measure" ⟨"unit", .empty⟩)

theorem registry_measureConfig :
    measureConfig.config.schema.registry "measure" = .ok measureFields := by cbv

theorem get?_measureConfig : measureConfig.config.schema.get? "measure" = some measureType := rfl

theorem field_ne_of_mem_measureType :
    ∀ d ∈ measureType.declarations, d.field ≠ measureConfig.config.settings.indexField := by
  decide

/-- A run with this text on standard input. -/
def inputWorkspace (input : String) : Workspace := ⟨[], input, ⟨[], []⟩⟩

def measureEntries : List (String × Json) :=
  [("unit", .string "kg"), ("value", .number (.real false ⟨5629499534213120, -51⟩))]

def measures : Json := .array [.object measureEntries]

def measuring : Workspace := inputWorkspace measures.text

theorem holds_measures : measuring.Holds "-" measures := ⟨_, rfl, by decide +kernel⟩

theorem numbers_texts (texts : List String) : (Json.array (texts.map .string)).numbers = [] := by
  induction texts with
  | nil => rfl
  | cons s texts ih => exact ih

/-- The tokens of a measure come last, and bring no number with them. -/
theorem numbers_of_putsEntry_measureEntries {texts : List String} {entries : List (String × Json)}
    (h : PutsEntry "words" (.array (texts.map .string)) measureEntries entries) :
    (Json.array [.object entries]).numbers = [.real false ⟨5629499534213120, -51⟩] := by
  generalize hmeasure : measureEntries = es at h
  cases h with
  | added hnew =>
    subst hmeasure
    have htexts := numbers_texts texts
    simp only [measureEntries, numbers, itemNumbers, entryNumbers, List.cons_append,
      List.nil_append, List.append_nil] at htexts ⊢
    rw [htexts]
  | @replaced before after old hfirst =>
    have hmem : "words" ∈ measureEntries.map Prod.fst := by
      rw [hmeasure]
      simp
    exact absurd hmem (by decide)

theorem index_measures_again :
    measureConfig.config.schema.get? "measure" = some measureType ∧
    measureConfig.config.schema.registry "measure" = .ok measureFields ∧
    (∀ d ∈ measureType.declarations, d.field ≠ measureConfig.config.settings.indexField) ∧
    measuring.Holds "-" measures ∧
    ∃ indexed, measuring.Prints measureConfig (.index "measure" "-") (.array indexed) ∧
      (inputWorkspace (measuring.report measureConfig (.index "measure" "-")).out).Prints
        measureConfig (.index "measure" "-") (.array indexed) := by
  refine ⟨get?_measureConfig, registry_measureConfig, field_ne_of_mem_measureType, holds_measures,
    ?_⟩
  have hrecords : recordsOf measures = [.object measureEntries] := rfl
  rcases index_report_cases get?_measureConfig registry_measureConfig field_ne_of_mem_measureType
    holds_measures with ⟨before, record, after, _, heq, -, hnot, -⟩ |
      ⟨-, indexed, hprints, hall, -, hagain⟩
  · have hrecord : record ∈ recordsOf measures := by
      rw [heq]
      simp
    rw [hrecords, List.mem_singleton] at hrecord
    exact absurd hrecord (hnot measureEntries)
  · refine ⟨indexed, hprints, hagain ?_ (.inl ⟨_, rfl⟩) _ _ rfl⟩
    rw [hrecords, List.forall₂_cons_left_iff] at hall
    obtain ⟨out, _, ⟨entries, entries', tokens, hentries, rfl, hputs⟩, hnil, rfl⟩ := hall
    rw [List.forall₂_nil_left_iff] at hnil
    cases hnil
    cases hentries
    intro negative magnitude hmem
    rw [numbers_of_putsEntry_measureEntries hputs, List.mem_singleton] at hmem
    rw [hmem]
    decide +kernel

/-- A measure with its tokens. -/
def measured (value : Binary64) : Json :=
  .object [("unit", .string "kg"), ("words", .array [.string "unit:kg"]),
    ("value", .number (.real false value))]

theorem indexRecords_measured (value : Binary64) :
    indexRecords measureConfig.config measureFields [measured value] = .ok [measured value] := by
  rfl

/-- What is printed are the measures that were read, whatever text they were read from. -/
theorem prints_measured {input : String} {value : Binary64}
    (h : read? input = some (.array [measured value])) :
    (inputWorkspace input).Prints measureConfig (.index "measure" "-")
      (.array [measured value]) :=
  Workspace.prints_index registry_measureConfig ⟨input, rfl, h⟩ (indexRecords_measured value)

/-- The value is read as `readOnce`, and what is printed for that is read as `readTwice`. -/
def roundedInput : String :=
  "[\x7b\"unit\": \"kg\", \"words\": [\"unit:kg\"], \"value\": 9399.018092340838\x7d]"

def readOnce : Binary64 := ⟨5167164841102875, -39⟩

def readTwice : Binary64 := ⟨5167164841102876, -39⟩

/-- What was printed first is read with its last digit rounded up, and printed so. -/
theorem not_forall_index_again :
    ¬ ∀ (loaded : LoadedConfig) (type : String) (t : RecordType) (r : FieldRegistry),
      loaded.config.schema.get? type = some t → loaded.config.schema.registry type = .ok r →
      (∀ d ∈ t.declarations, d.field ≠ loaded.config.settings.indexField) →
      ∀ (w : Workspace) (path : String) (records : List Json), w.Holds path (.array records) →
      (∀ record ∈ records, ∃ entries, record = .object entries) →
      ∃ indexed, w.Prints loaded (.index type path) (.array indexed) ∧
        ∀ (w' : Workspace) (path' : String),
          w'.run (readText path') = .ok (w.report loaded (.index type path)).out →
          w'.Prints loaded (.index type path') (.array indexed) := by
  intro h
  have hread : read? roundedInput = some (.array [measured readOnce]) := by decide +kernel
  have hagain : read? ((Json.array [measured readOnce]).text ++ "\n") =
      some (.array [measured readTwice]) := by decide +kernel
  have hfirst := prints_measured hread
  obtain ⟨indexed, hprints, hsecond⟩ := h measureConfig "measure" measureType measureFields
    get?_measureConfig registry_measureConfig field_ne_of_mem_measureType
    (inputWorkspace roundedInput) "-" [measured readOnce] ⟨_, rfl, hread⟩
    (List.forall_mem_singleton.mpr ⟨_, rfl⟩)
  have hreprints := hsecond (inputWorkspace ((Json.array [measured readOnce]).text ++ "\n")) "-"
    (by rw [hfirst.2]; rfl)
  have hsame : (Json.array [measured readOnce]).text ++ "\n" =
      (Json.array [measured readTwice]).text ++ "\n" :=
    calc _ = ((inputWorkspace roundedInput).report measureConfig (.index "measure" "-")).out :=
          hfirst.2.symm
      _ = (Json.array indexed).text ++ "\n" := hprints.2
      _ = _ := hreprints.2.symm.trans (prints_measured hagain).2
  revert hsame
  decide +kernel

end RecordSearch.Command
