import RecordSearch.Store

/-!
What a store goes through: records are inserted and replaced, and the indexer is changed in between.
However a store came about, records are known by their position in it (`Reachable.numbered`), so what
a search gives is in the order of the ids (`Reachable.pairwise_search`).
-/

namespace RecordSearch.RecordStore

open RecordSearch.Index

inductive Change where
  | insert (record : Json)
  | replace (id : Nat) (record : Json)
  | setIndexer (indexer : Indexer)
  deriving DecidableEq, Repr

def apply (s : RecordStore) : Change → RecordStore
  | .insert record => (s.insert record).2
  | .replace id record => s.replace id record
  | .setIndexer indexer => s.setIndexer indexer

def applyAll (s : RecordStore) (changes : List Change) : RecordStore := changes.foldl apply s

/-- The store was empty once. -/
def Reachable (s : RecordStore) : Prop :=
  ∃ registry indexer changes, s = (empty registry indexer).applyAll changes

/-- The id of a record is its position. -/
def Numbered (s : RecordStore) : Prop := ∀ id e, s.get? id = some e → e.id = id

theorem numbered_empty (registry : FieldRegistry) (indexer : Indexer) :
    (empty registry indexer).Numbered := by
  intro id e h
  cases h

theorem Numbered.apply {s : RecordStore} (hs : s.Numbered) (change : Change) :
    (s.apply change).Numbered := by
  intro id e h
  cases change with
  | insert record =>
    rw [RecordStore.apply, get?_insert] at h
    split at h
    · cases h
      rfl
    · exact hs id e h
  | replace other record =>
    rw [RecordStore.apply, get?_replace] at h
    split at h
    · rename_i hid
      cases h
      exact hid.1.symm
    · exact hs id e h
  | setIndexer indexer => exact hs id e h

theorem Numbered.applyAll {s : RecordStore} (hs : s.Numbered) (changes : List Change) :
    (s.applyAll changes).Numbered := by
  induction changes generalizing s with
  | nil => exact hs
  | cons change changes ih => exact ih (hs.apply change)

theorem Reachable.numbered {s : RecordStore} (h : s.Reachable) : s.Numbered := by
  obtain ⟨registry, indexer, changes, rfl⟩ := h
  exact (numbered_empty registry indexer).applyAll changes

theorem Numbered.pairwise_records {s : RecordStore} (hs : s.Numbered) :
    s.records.Pairwise (·.id < ·.id) := by
  rw [List.pairwise_iff_getElem]
  intro i j hi hj hij
  rw [hs i _ (List.getElem?_eq_getElem hi), hs j _ (List.getElem?_eq_getElem hj)]
  exact hij

theorem Reachable.pairwise_search {s : RecordStore} (h : s.Reachable) (query : String) :
    (s.search query).Pairwise (·.id < ·.id) :=
  h.numbered.pairwise_records.sublist List.filter_sublist

end RecordSearch.RecordStore
