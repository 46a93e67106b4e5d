import RecordSearch.Proofs.Command.Indexing
import RecordSearch.Proofs.Command.Running

/-!
The commands on records agree: a search finds the records whose tokens, as they are added to them,
satisfy the patterns that the query is compiled to (`prints_search_of_prints_index_compile`). One
command keeps records in a store and the other puts the tokens into them; both give a record the
tokens of the configured indexer.
-/

namespace RecordSearch

open RecordSearch.Query RecordSearch.Index

theorem Pattern.ofJson?_toJson (p : Pattern) : Pattern.ofJson? p.toJson = some p := by
  obtain ⟨scope, word, ignoreCase⟩ := p
  cases scope <;> rfl

theorem RecordStore.map_records_insertAll (s : RecordStore) (records : List Json) :
    (s.insertAll records).records.map (fun e => (e.record, e.tokens)) =
      s.records.map (fun e => (e.record, e.tokens)) ++
        records.map fun record => (record, s.indexer.index record s.registry) := by
  induction records generalizing s with
  | nil => simp [insertAll]
  | cons record records ih =>
    have hinsert := ih (s.insert record).2
    simp only [insert, List.map_append, List.map_singleton, List.append_assoc] at hinsert
    exact hinsert

namespace Command

variable {c : Config} {r : FieldRegistry}

/-- What a search gives, without the ids. -/
theorem map_searchRecords (query : String) (records : List Json) :
    (searchRecords c r query records).map (fun e => (e.record, e.tokens)) =
      (records.map fun record => (record, c.indexer.index record r)).filter fun found =>
        Pattern.matchesAll found.2 (compile r.lookup query) := by
  have hentries := RecordStore.map_records_insertAll (.empty r c.indexer) records
  rw [RecordStore.empty, List.map_nil, List.nil_append] at hentries
  rw [← hentries, List.filter_map]
  unfold searchRecords storeOf RecordStore.search RecordStore.searchPatterns
  rw [RecordStore.registry_insertAll]
  rfl

/-- What is printed of a search, by the tokens of each record. -/
theorem map_found_searchRecords (query : String) (records : List Json) (withTokens : Bool) :
    (searchRecords c r query records).map (found withTokens) =
      ((records.zip (records.map (c.indexer.index · r))).filter fun entry =>
        Pattern.matchesAll entry.2 (compile r.lookup query)).map fun entry =>
          found withTokens ⟨0, entry.1, entry.2⟩ := by
  have hzip : records.zip (records.map (c.indexer.index · r)) =
      records.map fun record => (record, c.indexer.index record r) :=
    List.map_prod_left_eq_zip.symm
  have hfound : found withTokens =
      (fun entry => found withTokens ⟨0, entry.1, entry.2⟩) ∘ fun e => (e.record, e.tokens) := by
    funext e
    cases withTokens <;> rfl
  rw [hzip, ← map_searchRecords, hfound, List.map_map]
  rfl

/-- A search prints the records, in their order, whose tokens satisfy every pattern: the tokens that
are added to the records under the index field, and the patterns that the query is compiled to. -/
theorem prints_search_of_prints_index_compile {loaded : LoadedConfig} {type : String}
    {r : FieldRegistry} (hr : loaded.config.schema.registry type = .ok r) {w : Workspace}
    {path : String} {records : List Json} (hrecords : w.Holds path (.array records))
    (hobjects : ∀ record ∈ records, ∃ entries, record = .object entries) (query : String) :
    ∃ indexed tokens printed patterns,
      w.Prints loaded (.index type path) (.array indexed) ∧
      List.Forall₂ (fun record out => ∃ entries value, record = .object entries ∧
        out = .object (Json.put loaded.config.settings.indexField value entries)) records indexed ∧
      List.Forall₂ (fun out ts => out.get? loaded.config.settings.indexField =
        some (.array (List.map Json.string ts))) indexed tokens ∧
      w.Prints loaded (.compile type query false) (.array printed) ∧
      printed.mapM Pattern.ofJson? = some patterns ∧
      ∀ withTokens, w.Prints loaded (.search type path query withTokens)
        (.array (((records.zip tokens).filter fun entry =>
          Pattern.matchesAll entry.2 patterns).map fun entry =>
            if withTokens then .object [("record", entry.1),
              ("tokens", .array (entry.2.map .string))]
            else entry.1)) := by
  rcases indexFrom_cases loaded.config r 0 records with ⟨indexed, hindexed, hall⟩ |
    ⟨before, bad, after, rfl, -, hbad, -⟩
  case inr =>
    obtain ⟨entries, rfl⟩ := hobjects bad (by simp)
    cases hbad
  refine ⟨indexed, records.map (loaded.config.indexer.index · r),
    (compile r.lookup query).map Pattern.toJson, compile r.lookup query,
    Workspace.prints_index hr hrecords hindexed, ?_, ?_, Workspace.prints_compile hr query, ?_, ?_⟩
  · refine hall.imp fun record out hout => ?_
    obtain ⟨entries, hrecord, hentries⟩ := indexRecord?_eq_some_iff.mp hout
    exact ⟨entries, _, hrecord, hentries⟩
  · rw [List.forall₂_map_right_iff]
    refine hall.flip.imp fun out record hout => ?_
    obtain ⟨entries, -, rfl⟩ := indexRecord?_eq_some_iff.mp hout
    exact Json.lookup_put_self _ _ _
  · induction compile r.lookup query with
    | nil => rfl
    | cons p ps ih => simp [Pattern.ofJson?_toJson, ih]
  · intro withTokens
    have hsearch := Workspace.prints_search hr hrecords query withTokens
    rw [recordsOf, map_found_searchRecords] at hsearch
    cases withTokens <;> exact hsearch

def talkConfig : LoadedConfig where
  path := "glean.toml"
  config := {
    settings := ⟨"words", true⟩
    schema := Schema.empty.insert "talk" (.ofParts ["title"] [] [⟨"title", .empty⟩]) }

def talkFields : FieldRegistry :=
  (FieldRegistry.empty "talk").insert (.direct "talk" ⟨"title", .empty⟩)

def talks : List Json :=
  [.object [("title", .string "Safe C++"), ("words", .null)], .object [("title", .string "C")]]

/-- The records come in on standard input, and one has an entry that gives way to its tokens. -/
def talkWorkspace : Workspace where
  directory := []
  input := (Json.array talks).text
  tree := ⟨[], []⟩

theorem prints_search_talks :
    talkConfig.config.schema.registry "talk" = .ok talkFields ∧
    talkWorkspace.Holds "-" (.array talks) ∧
    (∀ record ∈ talks, ∃ entries, record = .object entries) ∧
    ∃ tokens patterns, ∀ withTokens,
      talkWorkspace.Prints talkConfig (.search "talk" "-" "c++ safe" withTokens)
        (.array (((talks.zip tokens).filter fun entry =>
          Pattern.matchesAll entry.2 patterns).map fun entry =>
            if withTokens then .object [("record", entry.1),
              ("tokens", .array (entry.2.map .string))]
            else entry.1)) := by
  have hr : talkConfig.config.schema.registry "talk" = .ok talkFields := by cbv
  have hholds : talkWorkspace.Holds "-" (.array talks) := ⟨_, rfl, by decide +kernel⟩
  have hobjects : ∀ record ∈ talks, ∃ entries, record = .object entries := by
    intro record hrecord
    rcases List.mem_cons.mp hrecord with rfl | hrecord
    · exact ⟨_, rfl⟩
    · exact ⟨_, List.mem_singleton.mp hrecord⟩
  obtain ⟨_, tokens, _, patterns, -, -, -, -, -, hsearch⟩ :=
    prints_search_of_prints_index_compile hr hholds hobjects "c++ safe"
  exact ⟨hr, hholds, hobjects, tokens, patterns, hsearch⟩

end Command

end RecordSearch
