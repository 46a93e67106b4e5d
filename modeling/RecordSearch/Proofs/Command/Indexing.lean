import RecordSearch.Command.Records
import RecordSearch.Proofs.Registry.Resolution
import Mathlib.Data.List.Forall2

/-!
What adding tokens does to records. Only the entry of the index field changes (`putsEntry_put`), and
the tokens depend only on the entries that the type declares (`index_congr`,
`Builds.entry_declared`). So if none of these is the index field, records that have their tokens
already stay as they are (`indexRecords_indexRecords`).
-/

namespace RecordSearch

open RecordSearch.Index

/-! ## One entry -/

/-- The entries differ in `key` alone: its value is replaced where it stands, or the entry comes
last. -/
inductive Json.PutsEntry (key : String) (value : Json) :
    List (String × Json) → List (String × Json) → Prop
  | added {entries : List (String × Json)} (hnew : key ∉ entries.map Prod.fst) :
      PutsEntry key value entries (entries ++ [(key, value)])
  | replaced {before after : List (String × Json)} (old : Json)
      (hfirst : key ∉ before.map Prod.fst) :
      PutsEntry key value (before ++ (key, old) :: after) (before ++ (key, value) :: after)

theorem Json.PutsEntry.cons {key k : String} {value v : Json} {es out : List (String × Json)}
    (hne : k ≠ key) (h : PutsEntry key value es out) :
    PutsEntry key value ((k, v) :: es) ((k, v) :: out) := by
  cases h with
  | added hnew =>
    apply PutsEntry.added
    rw [List.map_cons, List.mem_cons, not_or]
    exact ⟨hne.symm, hnew⟩
  | @replaced before after old hfirst =>
    apply @PutsEntry.replaced key value ((k, v) :: before) after old
    rw [List.map_cons, List.mem_cons, not_or]
    exact ⟨hne.symm, hfirst⟩

theorem Json.putsEntry_put (key : String) (value : Json) (entries : List (String × Json)) :
    PutsEntry key value entries (put key value entries) := by
  induction entries with
  | nil => exact .added List.not_mem_nil
  | cons e rest ih =>
    obtain ⟨k, v⟩ := e
    by_cases h : k = key
    · subst h
      rw [put, if_pos rfl]
      exact @PutsEntry.replaced k value [] rest v List.not_mem_nil
    · rw [put, if_neg h]
      exact ih.cons h

/-! ## The entries that tokens depend on -/

namespace FieldDescriptor

/-- The entry of a record from which its value is reached. -/
def entry (d : FieldDescriptor) : String := d.relations.headD d.field

theorem valueIn_congr {d : FieldDescriptor} {a b : Json} (h : a.get? d.entry = b.get? d.entry) :
    d.valueIn a = d.valueIn b := by
  unfold entry at h
  unfold valueIn
  cases hrelations : d.relations with
  | nil =>
    rw [hrelations, List.headD_nil] at h
    rw [FieldValue.along, FieldValue.along, FieldValue.atField, FieldValue.atField, h]
  | cons relation rest =>
    rw [hrelations, List.headD_cons] at h
    rw [FieldValue.along, FieldValue.along, h]

end FieldDescriptor

theorem Index.index_congr {r : FieldRegistry} {a b : Json} (ix : Indexer)
    (h : ∀ d ∈ r.fields, a.get? d.entry = b.get? d.entry) : ix.index a r = ix.index b r := by
  refine List.flatMap_congr fun d hd => ?_
  rw [Indexer.tokensFor, Indexer.tokensFor, FieldDescriptor.valueIn_congr (h d hd)]

/-- What a descriptor starts from is declared by the type itself, however deep it leads. -/
theorem Registers.entry_declared {s : Schema} {owner : String} {t : RecordType}
    {ds : List Declaration} {r r' : FieldRegistry} (h : Registers s owner t ds r r')
    (names : List String) (hds : ∀ d ∈ ds, d.field ∈ names)
    (hr : ∀ e ∈ r.fields, e.entry ∈ names) : ∀ e ∈ r'.fields, e.entry ∈ names := by
  induction h generalizing names with
  | nil => exact hr
  | @field owner t d ds r r' hrel hfield hrest ih =>
    rw [List.forall_mem_cons] at hds
    refine ih names hds.2 fun e he => ?_
    rcases FieldRegistry.mem_putField he with rfl | he
    · exact hds.1
    · exact hr e he
  | @relation owner t d ds r r' relation u inner hrel hget hinner hrest ihinner ih =>
    rw [List.forall_mem_cons] at hds
    refine ih names hds.2 fun e he => ?_
    rcases FieldRegistry.mem_fields_insertAll he with he | he
    · obtain ⟨f, -, rfl⟩ := List.mem_map.mp he
      exact hds.1
    · exact hr e he

theorem Builds.entry_declared {s : Schema} {type : String} {t : RecordType} {r : FieldRegistry}
    (hr : Builds s type r) (ht : s.get? type = some t) :
    ∀ e ∈ r.fields, ∃ d ∈ t.declarations, d.field = e.entry := by
  obtain ⟨t', ht', hregisters⟩ := hr
  rw [ht] at ht'
  cases ht'
  intro e he
  have hmem := hregisters.entry_declared (t.declarations.map (·.field))
    (fun d hd => List.mem_map_of_mem hd) (fun e he => absurd he List.not_mem_nil) e he
  exact List.mem_map.mp hmem

/-! ## Records with their tokens -/

namespace Command

variable {c : Config} {r : FieldRegistry}

/-- Either every record is an object and each gets its tokens, or the first that is not an object
stops the rest. -/
theorem indexFrom_cases (c : Config) (r : FieldRegistry) (n : Nat) (records : List Json) :
    (∃ indexed, indexFrom c r n records = .ok indexed ∧
      List.Forall₂ (fun record out => indexRecord? c r record = some out) records indexed) ∨
    ∃ before record after, records = before ++ record :: after ∧
      (∀ other ∈ before, indexRecord? c r other ≠ none) ∧ indexRecord? c r record = none ∧
      indexFrom c r n records = .error (n + before.length) := by
  induction records generalizing n with
  | nil => exact .inl ⟨[], rfl, .nil⟩
  | cons record records ih =>
    cases hfirst : indexRecord? c r record with
    | none =>
      refine .inr ⟨[], record, records, rfl, by simp, hfirst, ?_⟩
      simp [indexFrom, hfirst]
    | some out =>
      rcases ih (n + 1) with ⟨indexed, hfrom, hall⟩ |
        ⟨before, bad, after, rfl, hbefore, hbad, hfrom⟩
      · refine .inl ⟨out :: indexed, ?_, .cons hfirst hall⟩
        simp [indexFrom, hfirst, hfrom]
      · refine .inr ⟨record :: before, bad, after, rfl, ?_, hbad, ?_⟩
        · rw [List.forall_mem_cons]
          exact ⟨by simp [hfirst], hbefore⟩
        · simp only [indexFrom, hfirst, hfrom, List.length_cons, Except.error.injEq]
          omega

theorem indexRecord?_eq_some_iff {record out : Json} : indexRecord? c r record = some out ↔
    ∃ entries, record = .object entries ∧ out = .object (Json.put c.settings.indexField
      (.array ((c.indexer.index record r).map .string)) entries) := by
  constructor
  · intro h
    cases record with
    | object entries => exact ⟨entries, rfl, (Option.some.inj h).symm⟩
    | _ => cases h
  · rintro ⟨entries, rfl, rfl⟩
    rfl

theorem indexRecord?_eq_none_iff {record : Json} : indexRecord? c r record = none ↔
    ∀ entries, record ≠ .object entries := by
  rw [Option.eq_none_iff_forall_ne_some]
  simp only [ne_eq, indexRecord?_eq_some_iff, not_exists, not_and]
  exact ⟨fun h entries heq => h _ entries heq rfl, fun h _ entries heq => absurd heq (h entries)⟩

theorem indexRecords_of_forall₂ {records indexed : List Json}
    (h : List.Forall₂ (fun record out => indexRecord? c r record = some out) records indexed) :
    indexRecords c r records = .ok indexed := by
  rw [indexRecords, indexFrom_eq_ok_iff]
  induction h with
  | nil => rfl
  | cons hfirst _ ih => simp [hfirst, ih]

section

variable (hr : ∀ d ∈ r.fields, d.entry ≠ c.settings.indexField)

include hr

/-- Tokens do not count as text of the record they stand in. -/
theorem indexRecord?_of_indexed {record out : Json} (h : indexRecord? c r record = some out) :
    indexRecord? c r out = some out := by
  obtain ⟨entries, rfl, rfl⟩ := indexRecord?_eq_some_iff.mp h
  have htokens : c.indexer.index (.object (Json.put c.settings.indexField
      (.array ((c.indexer.index (.object entries) r).map .string)) entries)) r =
      c.indexer.index (.object entries) r :=
    index_congr _ fun d hd => Json.lookup_put_of_ne (hr d hd) _ _
  rw [indexRecord?_eq_some_iff]
  exact ⟨_, rfl, by rw [htokens, Json.put_put]⟩

theorem indexRecords_indexRecords {records indexed : List Json}
    (h : List.Forall₂ (fun record out => indexRecord? c r record = some out) records indexed) :
    indexRecords c r indexed = .ok indexed := by
  apply indexRecords_of_forall₂
  induction h with
  | nil => exact .nil
  | cons hfirst _ ih => exact .cons (indexRecord?_of_indexed hr hfirst) ih

end

end Command

end RecordSearch
