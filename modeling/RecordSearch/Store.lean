import RecordSearch.Index.Tokens
import RecordSearch.Query.Compile

/-!
Records of one type, kept with the tokens they had when they were last written. Records are known
by their position, and a search gives those whose tokens satisfy every pattern of the query.
-/

namespace RecordSearch

open RecordSearch.Query RecordSearch.Index

structure StoredRecord where
  id : Nat
  record : Json
  tokens : List String
  deriving DecidableEq, Repr

structure RecordStore where
  registry : FieldRegistry
  indexer : Indexer
  records : List StoredRecord
  deriving DecidableEq, Repr

namespace RecordStore

def empty (registry : FieldRegistry) (indexer : Indexer) : RecordStore := ⟨registry, indexer, []⟩

/-- Later writes are indexed by `indexer`. -/
def setIndexer (s : RecordStore) (indexer : Indexer) : RecordStore := { s with indexer }

def size (s : RecordStore) : Nat := s.records.length

def entry (s : RecordStore) (id : Nat) (record : Json) : StoredRecord :=
  ⟨id, record, s.indexer.index record s.registry⟩

/-- The record gets the next free id, which is given back with the store. -/
def insert (s : RecordStore) (record : Json) : Nat × RecordStore :=
  let id := s.size
  (id, { s with records := s.records ++ [s.entry id record] })

def insertAll (s : RecordStore) (records : List Json) : RecordStore :=
  records.foldl (fun s record => (s.insert record).2) s

def get? (s : RecordStore) (id : Nat) : Option StoredRecord := s.records[id]?

/-- Replaces the record `id`; an unknown id changes nothing. -/
def replace (s : RecordStore) (id : Nat) (record : Json) : RecordStore :=
  { s with records := s.records.set id (s.entry id record) }

/-- `replace` with the record that was there before. The entry keeps its id; for an unknown id there
is no such record. -/
def exchange (s : RecordStore) (id : Nat) (record : Json) : Option Json × RecordStore :=
  match s.records[id]? with
  | none => (none, s)
  | some stored =>
    let tokens := s.indexer.index record s.registry
    (some stored.record, { s with records := s.records.set id { stored with record, tokens } })

def searchPatterns (s : RecordStore) (ps : List Pattern) : List StoredRecord :=
  s.records.filter fun stored => Pattern.matchesAll stored.tokens ps

def search (s : RecordStore) (query : String) : List StoredRecord :=
  s.searchPatterns (compile s.registry.lookup query)

theorem size_insert (s : RecordStore) (record : Json) : (s.insert record).2.size = s.size + 1 := by
  simp [insert, size]

theorem get?_insert (s : RecordStore) (record : Json) (id : Nat) :
    (s.insert record).2.get? id =
      if id = s.size then some (s.entry id record) else s.get? id := by
  by_cases h : id = s.size
  · subst h
    simp [insert, get?, size]
  · rcases Nat.lt_or_gt_of_ne h with hlt | hgt
    · simp only [size] at hlt
      simp [insert, get?, h, List.getElem?_append_left hlt]
    · have hnone : s.records[id]? = none := List.getElem?_eq_none (Nat.le_of_lt hgt)
      have hlen : (s.insert record).2.records.length ≤ id := by
        rw [← size, size_insert]
        exact hgt
      rw [if_neg h, get?, get?, hnone, List.getElem?_eq_none hlen]

theorem get?_replace (s : RecordStore) (record : Json) (id other : Nat) :
    (s.replace id record).get? other =
      if other = id ∧ id < s.size then some (s.entry id record) else s.get? other := by
  by_cases h : other = id
  · subst h
    by_cases hlt : other < s.records.length
    · simp [replace, get?, size, hlt]
    · simp [replace, get?, size, hlt]
  · simp [replace, get?, h, List.getElem?_set_ne (Ne.symm h)]

/-! ## Searching -/

theorem mem_search_iff {s : RecordStore} {query : String} {e : StoredRecord} :
    e ∈ s.search query ↔ e ∈ s.records ∧
      Pattern.matchesAll e.tokens (compile s.registry.lookup query) = true :=
  List.mem_filter

@[simp] theorem registry_insertAll (s : RecordStore) (records : List Json) :
    (s.insertAll records).registry = s.registry := by
  induction records generalizing s with
  | nil => rfl
  | cons record records ih => exact ih (s.insert record).2

/-- What is inserted later comes after what is there. -/
theorem mem_records_insertAll {s : RecordStore} {e : StoredRecord} (h : e ∈ s.records)
    (records : List Json) : e ∈ (s.insertAll records).records := by
  induction records generalizing s with
  | nil => exact h
  | cons record records ih =>
    have hinsert : e ∈ (s.insert record).2.records := List.mem_append_left _ h
    exact ih hinsert

/-- A new record is found by every query that its own tokens satisfy, whatever is inserted after
it. -/
theorem mem_search_insertAll_insert_iff {s : RecordStore} {record : Json} {records : List Json}
    {query : String} :
    s.entry s.size record ∈ ((s.insert record).2.insertAll records).search query ↔
      Pattern.matchesAll (s.indexer.index record s.registry) (compile s.registry.lookup query) =
        true := by
  have hmem : s.entry s.size record ∈ ((s.insert record).2.insertAll records).records :=
    mem_records_insertAll (List.mem_append_right _ (List.mem_singleton_self _)) records
  rw [mem_search_iff, registry_insertAll]
  exact and_iff_right hmem

end RecordStore

end RecordSearch
