import RecordSearch.Index.Tokens
import RecordSearch.Proofs.Registry.ExposedPaths
import RecordSearch.Query.Pattern

/-!
A token is read back at its first colon. As long as no name has a colon in it, that is the colon
after the name (`splitAtFirst_token`), whatever stands in keys and words. Since a name is registered
once, what is read back under it comes from its own descriptor (`fieldValues_index_of_get?`), and a
pattern that looks under one name sees no more than that (`matchesAny_eq_any_fieldValues`).
-/

namespace RecordSearch

namespace FieldRegistry

/-- The registry is what registering some descriptors leads to. -/
def IsRegistered (r : FieldRegistry) : Prop :=
  ∃ recordType ds, r = (empty recordType).insertAll ds

theorem nodup_names_insertAll {r : FieldRegistry} (h : r.names.Nodup) (ds : List FieldDescriptor) :
    (r.insertAll ds).names.Nodup := by
  induction ds generalizing r with
  | nil => exact h
  | cons d ds ih => exact ih (nodup_names_insert h)

theorem IsRegistered.nodup_names {r : FieldRegistry} (h : r.IsRegistered) : r.names.Nodup := by
  obtain ⟨recordType, ds, rfl⟩ := h
  have hempty : (empty recordType).names.Nodup := List.nodup_nil
  exact nodup_names_insertAll hempty ds

theorem isRegistered_of_registry {s : Schema} {t : String} {r : FieldRegistry}
    (h : s.registry t = .ok r) : r.IsRegistered :=
  ⟨t, _, (registry_eq_ok_iff.mp h).eq_insertAll⟩

/-- A registered descriptor stands between descriptors that go by other names. -/
theorem exists_fields_eq {r : FieldRegistry} (hr : r.names.Nodup) {name : String}
    {d : FieldDescriptor} (h : r.get? name = some d) :
    ∃ before after, r.fields = before ++ d :: after ∧ d.name = name ∧
      (∀ e ∈ before, e.name ≠ name) ∧ ∀ e ∈ after, e.name ≠ name := by
  obtain ⟨hname, before, after, hfields, hbefore⟩ := List.find?_eq_some_iff_append.mp h
  rw [beq_iff_eq] at hname
  refine ⟨before, after, hfields, hname, fun e he => by simpa using hbefore e he, ?_⟩
  intro e he heq
  rw [names, hfields, List.map_append, List.map_cons, List.nodup_append, List.nodup_cons] at hr
  exact hr.2.1.1 (List.mem_map.mpr ⟨e, he, heq.trans hname.symm⟩)

end FieldRegistry

namespace Index

open RecordSearch.Text RecordSearch.Query

/-! ## One token -/

def token (name rest : String) : String := name ++ ":" ++ rest

/-- What follows the name in a token: the word, after its key if it has one. -/
def tokenRest (word : String) : Option String → String
  | some key => normalizeKey key ++ ":" ++ word
  | none => word

theorem token_tokenRest (name word : String) (key : Option String) :
    tokenField name key ++ ":" ++ word = token name (tokenRest word key) := by
  cases key <;> simp [tokenField, token, tokenRest, String.append_assoc]

theorem toList_token (name rest : String) :
    (token name rest).toList = name.toList ++ ':' :: rest.toList := by
  simp [token]

theorem splitAtFirst_token {name : String} (h : ':' ∉ name.toList) (rest : String) :
    splitAtFirst ':' (token name rest).toList = some (name.toList, rest.toList) :=
  splitAtFirst_eq_some_iff.mpr ⟨toList_token name rest, h⟩

theorem fieldValues_map_token {field : String} (h : ':' ∉ field.toList) (rests : List String)
    (name : String) :
    fieldValues (rests.map (token field)) name = if field = name then rests else [] := by
  rw [fieldValues, List.filterMap_map]
  simp only [Function.comp_def, splitAtFirst_token h, String.ofList_toList]
  by_cases hname : field = name <;> simp [hname]

/-- A pattern for one name looks at what is read back under this name. -/
theorem matchesAny_eq_any_fieldValues {p : Pattern} {name : String} (hp : p.scope = .exact name)
    (tokens : List String) :
    Pattern.matchesAny tokens p =
      (fieldValues tokens name).any fun rest => p.wordOccursIn rest.toList := by
  rw [fieldValues, List.any_filterMap, Pattern.matchesAny]
  congr 1
  funext t
  rw [Pattern.matchesToken]
  cases splitAtFirst ':' t.toList with
  | none => rfl
  | some parts =>
    obtain ⟨field, rest⟩ := parts
    by_cases hname : String.ofList field = name
    · simp [hp, Scope.accepts, hname]
    · simp [hp, Scope.accepts, hname, Ne.symm hname]

/-! ## One field -/

section

variable (ix : Indexer) (d : FieldDescriptor) (record : Json)

theorem exists_tokensFor_eq : ∃ rests : List String,
    ix.tokensFor d record = rests.map (token d.name) := by
  refine ⟨(d.valueIn record).segments.flatMap fun segment =>
    (normalizeWords segment.2 (d.keepsPunctuation ix.keepPunctuation)).map
      (tokenRest · segment.1), ?_⟩
  rw [Indexer.tokensFor, List.map_flatMap]
  refine List.flatMap_congr fun segment _ => ?_
  rw [segmentTokens, List.map_map]
  exact List.map_congr_left fun word _ => token_tokenRest d.name word segment.1

variable {d}

theorem map_token_fieldValues_tokensFor (h : ':' ∉ d.name.toList) :
    (fieldValues (ix.tokensFor d record) d.name).map (token d.name) = ix.tokensFor d record := by
  obtain ⟨rests, hrests⟩ := exists_tokensFor_eq ix d record
  rw [hrests, fieldValues_map_token h, if_pos rfl]

theorem fieldValues_tokensFor_of_ne {name : String} (h : ':' ∉ d.name.toList)
    (hne : d.name ≠ name) : fieldValues (ix.tokensFor d record) name = [] := by
  obtain ⟨rests, hrests⟩ := exists_tokensFor_eq ix d record
  rw [hrests, fieldValues_map_token h, if_neg hne]

end

/-! ## All fields -/

section

variable {r : FieldRegistry} (hcolon : ∀ name ∈ r.names, ':' ∉ name.toList) (ix : Indexer)
  (record : Json)

theorem fieldValues_index (name : String) :
    fieldValues (ix.index record r) name =
      r.fields.flatMap fun d => fieldValues (ix.tokensFor d record) name := by
  rw [Indexer.index, fieldValues, List.filterMap_flatMap]
  rfl

include hcolon

theorem fieldValues_index_of_not_mem {name : String} (h : name ∉ r.names) :
    fieldValues (ix.index record r) name = [] := by
  rw [fieldValues_index, List.flatMap_eq_nil_iff]
  intro d hd
  have hmem : d.name ∈ r.names := List.mem_map.mpr ⟨d, hd, rfl⟩
  exact fieldValues_tokensFor_of_ne ix record (hcolon _ hmem) fun heq => h (heq ▸ hmem)

theorem fieldValues_index_of_get? (hr : r.names.Nodup) {name : String} {d : FieldDescriptor}
    (h : r.get? name = some d) :
    fieldValues (ix.index record r) name = fieldValues (ix.tokensFor d record) name := by
  obtain ⟨before, after, hfields, -, hbefore, hafter⟩ := FieldRegistry.exists_fields_eq hr h
  have hothers : ∀ es : List FieldDescriptor, (∀ e ∈ es, e ∈ r.fields) →
      (∀ e ∈ es, e.name ≠ name) →
      es.flatMap (fun e => fieldValues (ix.tokensFor e record) name) = [] := by
    intro es hmem hne
    rw [List.flatMap_eq_nil_iff]
    intro e he
    have hname : ':' ∉ e.name.toList := hcolon _ (List.mem_map.mpr ⟨e, hmem e he, rfl⟩)
    exact fieldValues_tokensFor_of_ne ix record hname (hne e he)
  rw [fieldValues_index, hfields, List.flatMap_append, List.flatMap_cons,
    hothers before (by simp +contextual [hfields]) hbefore,
    hothers after (by simp +contextual [hfields]) hafter, List.nil_append, List.append_nil]

end

/-- Under a registered name stand the tokens of its descriptor and no others, also for a pattern
that looks under this name; under any other name stands nothing. -/
theorem fieldValues_index_and_matchesAny_index {r : FieldRegistry} (hr : r.IsRegistered)
    (hcolon : ∀ name ∈ r.names, ':' ∉ name.toList) (ix : Indexer) (record : Json) :
    (∀ name d, r.get? name = some d →
      (fieldValues (ix.index record r) name).map (fun rest => name ++ ":" ++ rest) =
          ix.tokensFor d record ∧
        ∀ p : Pattern, p.scope = .exact name →
          (Pattern.matchesAny (ix.index record r) p = true ↔
            Pattern.matchesAny (ix.tokensFor d record) p = true)) ∧
    ∀ name, name ∉ r.names → fieldValues (ix.index record r) name = [] := by
  refine ⟨fun name d hget => ?_, fun name => fieldValues_index_of_not_mem hcolon ix record⟩
  have hvalues := fieldValues_index_of_get? hcolon ix record hr.nodup_names hget
  constructor
  · obtain rfl : d.name = name := by simpa using List.find?_some hget
    have hmem : d.name ∈ r.names := List.mem_map.mpr ⟨d, List.mem_of_find?_eq_some hget, rfl⟩
    rw [hvalues]
    exact map_token_fieldValues_tokensFor ix record (hcolon _ hmem)
  · intro p hp
    rw [matchesAny_eq_any_fieldValues hp, matchesAny_eq_any_fieldValues hp, hvalues]

/-- Two fields, one of which has its name at the start of the name of the other. -/
def noteFields : FieldRegistry := (FieldRegistry.empty "note").insertAll
  [.direct "note" ⟨"metadata", { SearchOptions.empty with keepPunctuation := some true }⟩,
    .direct "note" ⟨"metadata_tags", .empty⟩]

/-- Colons stand in a key and in a word. -/
def noteRecord : Json := .object
  [("metadata_tags", .string "draft"), ("metadata", .object [("See: also", .string "a:b C")])]

theorem fieldValues_noteFields :
    noteFields.IsRegistered ∧ (∀ name ∈ noteFields.names, ':' ∉ name.toList) ∧
    (fieldValues ((Indexer.mk false).index noteRecord noteFields) "metadata").map
        (fun rest => "metadata" ++ ":" ++ rest) =
      ["metadata:see__also:a:b", "metadata:see__also:c"] ∧
    Pattern.matchesAny ((Indexer.mk false).index noteRecord noteFields)
      (Pattern.ofWord (some "metadata") "draft") = false := by
  have hr : noteFields.IsRegistered := ⟨"note", _, rfl⟩
  have hcolon : ∀ name ∈ noteFields.names, ':' ∉ name.toList := by
    rw [show noteFields.names = ["metadata", "metadata_tag"] by decide +kernel]
    simp
  have hget : noteFields.get? "metadata" = some (.direct "note"
      ⟨"metadata", { SearchOptions.empty with keepPunctuation := some true }⟩) := by decide +kernel
  have hisolated :=
    (fieldValues_index_and_matchesAny_index hr hcolon ⟨false⟩ noteRecord).1 "metadata" _ hget
  refine ⟨hr, hcolon, hisolated.1.trans (by decide +kernel), ?_⟩
  rw [Bool.eq_false_iff, ne_eq, hisolated.2 _ rfl]
  decide +kernel

end Index

end RecordSearch
