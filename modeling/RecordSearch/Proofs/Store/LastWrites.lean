import Mathlib.Data.List.Induction
import RecordSearch.Proofs.Store.Histories

/-!
What stands in a store after a history: under each id the record that was last written there, with
the tokens of the indexer of that moment (`get?_applyAll_iff`). A write is located in the history by
the changes before it, which decide the id it goes to and the indexer in force.
-/

namespace RecordSearch.RecordStore

open RecordSearch.Query RecordSearch.Index

def Change.isInsert : Change → Bool
  | .insert _ => true
  | _ => false

def Change.indexer? : Change → Option Indexer
  | .setIndexer indexer => some indexer
  | _ => none

/-- What a change writes into a store of `size` records, and where. A replacement under an id that
is not there yet writes nothing. -/
def Change.write? (size : Nat) : Change → Option (Nat × Json)
  | .insert record => some (size, record)
  | .replace id record => if id < size then some (id, record) else none
  | .setIndexer _ => none

def insertCount (changes : List Change) : Nat := changes.countP Change.isInsert

/-- The indexer that was set last, or the one at the start. -/
def indexerAfter (start : Indexer) (changes : List Change) : Indexer :=
  (changes.filterMap Change.indexer?).getLast?.getD start

/-- The change that follows `before` writes `record` under `id`. -/
def Write (changes before : List Change) (id : Nat) (record : Json) : Prop :=
  ∃ change after, changes = before ++ change :: after ∧
    change.write? (insertCount before) = some (id, record)

/-- No later write goes to the same id. -/
def LastWrite (changes before : List Change) (id : Nat) (record : Json) : Prop :=
  Write changes before id record ∧
    ∀ before' record', Write changes before' id record' → before'.length ≤ before.length

/-! ## One change more -/

theorem insertCount_concat (changes : List Change) (change : Change) :
    insertCount (changes ++ [change]) = insertCount changes + if change.isInsert then 1 else 0 := by
  simp [insertCount, List.countP_append, List.countP_singleton]

theorem indexerAfter_concat (start : Indexer) (changes : List Change) (change : Change) :
    indexerAfter start (changes ++ [change]) =
      change.indexer?.getD (indexerAfter start changes) := by
  unfold indexerAfter
  cases h : change.indexer? with
  | none => simp [h]
  | some indexer => simp [h]

theorem Write.length_lt {changes before : List Change} {id : Nat} {record : Json}
    (h : Write changes before id record) : before.length < changes.length := by
  obtain ⟨change, after, rfl, _⟩ := h
  simp

theorem write_concat_iff {changes before : List Change} {change : Change} {id : Nat}
    {record : Json} :
    Write (changes ++ [change]) before id record ↔
      Write changes before id record ∨
        before = changes ∧ change.write? (insertCount changes) = some (id, record) := by
  constructor
  · rintro ⟨first, after, heq, hwrite⟩
    rcases List.eq_nil_or_concat after with rfl | ⟨after, last, rfl⟩
    · obtain ⟨rfl, hlast⟩ := List.append_inj' heq rfl
      cases hlast
      exact .inr ⟨rfl, hwrite⟩
    · have hsplit : changes ++ [change] = (before ++ first :: after) ++ [last] := by
        rw [heq]
        simp
      obtain ⟨rfl, _⟩ := List.append_inj' hsplit rfl
      exact .inl ⟨first, after, rfl, hwrite⟩
  · rintro (⟨first, after, rfl, hwrite⟩ | ⟨rfl, hwrite⟩)
    · exact ⟨first, after ++ [change], by simp, hwrite⟩
    · exact ⟨change, [], rfl, hwrite⟩

/-- A new write to `id` is the last one there. -/
theorem lastWrite_concat_of_write {changes before : List Change} {change : Change} {id : Nat}
    {new record : Json} (h : change.write? (insertCount changes) = some (id, new)) :
    LastWrite (changes ++ [change]) before id record ↔ before = changes ∧ record = new := by
  have hnew : Write (changes ++ [change]) changes id new := write_concat_iff.mpr (.inr ⟨rfl, h⟩)
  constructor
  · rintro ⟨hwrite, hlast⟩
    rcases write_concat_iff.mp hwrite with hold | ⟨rfl, hwrite⟩
    · have hle := hlast changes new hnew
      have hlt := hold.length_lt
      omega
    · rw [h] at hwrite
      cases hwrite
      exact ⟨rfl, rfl⟩
  · rintro ⟨rfl, rfl⟩
    refine ⟨hnew, ?_⟩
    intro before' record' hwrite
    have hlt := hwrite.length_lt
    simp only [List.length_append, List.length_singleton] at hlt
    omega

theorem lastWrite_concat_of_not_write {changes before : List Change} {change : Change} {id : Nat}
    {record : Json} (h : ∀ new, change.write? (insertCount changes) ≠ some (id, new)) :
    LastWrite (changes ++ [change]) before id record ↔ LastWrite changes before id record := by
  have hsame : ∀ before' record', Write (changes ++ [change]) before' id record' ↔
      Write changes before' id record' := by
    intro before' record'
    rw [write_concat_iff, or_iff_left]
    rintro ⟨_, hwrite⟩
    exact h record' hwrite
  simp only [LastWrite, hsame]

/-! ## What a change does to the store -/

@[simp] theorem registry_apply (s : RecordStore) (change : Change) :
    (s.apply change).registry = s.registry := by
  cases change <;> rfl

theorem indexer_apply (s : RecordStore) (change : Change) :
    (s.apply change).indexer = change.indexer?.getD s.indexer := by
  cases change <;> rfl

theorem size_apply (s : RecordStore) (change : Change) :
    (s.apply change).size = s.size + if change.isInsert then 1 else 0 := by
  cases change with
  | insert record => exact size_insert s record
  | replace id record => simp [apply, replace, size, Change.isInsert]
  | setIndexer indexer => rfl

theorem get?_apply_of_write {s : RecordStore} {change : Change} {id : Nat} {record : Json}
    (h : change.write? s.size = some (id, record)) :
    (s.apply change).get? id = some (s.entry id record) := by
  cases change with
  | insert new =>
    cases h
    rw [apply, get?_insert, if_pos rfl]
  | replace other new =>
    by_cases hlt : other < s.size
    · rw [Change.write?, if_pos hlt] at h
      cases h
      rw [apply, get?_replace, if_pos ⟨rfl, hlt⟩]
    · rw [Change.write?, if_neg hlt] at h
      cases h
  | setIndexer indexer => cases h

/-- A change leaves every entry alone that it does not write. -/
theorem get?_apply_of_not_write {s : RecordStore} {change : Change} {id : Nat}
    (h : ∀ record, change.write? s.size ≠ some (id, record)) :
    (s.apply change).get? id = s.get? id := by
  cases change with
  | insert new =>
    have hne : id ≠ s.size := by
      rintro rfl
      exact h new rfl
    rw [apply, get?_insert, if_neg hne]
  | replace other new =>
    have hne : ¬ (id = other ∧ other < s.size) := by
      rintro ⟨rfl, hlt⟩
      exact h new (if_pos hlt)
    rw [apply, get?_replace, if_neg hne]
  | setIndexer indexer => rfl

/-! ## What a history leaves -/

theorem applyAll_concat (s : RecordStore) (changes : List Change) (change : Change) :
    s.applyAll (changes ++ [change]) = (s.applyAll changes).apply change := by
  simp [applyAll]

@[simp] theorem registry_applyAll (s : RecordStore) (changes : List Change) :
    (s.applyAll changes).registry = s.registry := by
  induction changes generalizing s with
  | nil => rfl
  | cons change changes ih => exact (ih (s.apply change)).trans (registry_apply s change)

theorem indexer_applyAll (r : FieldRegistry) (ix : Indexer) (changes : List Change) :
    ((empty r ix).applyAll changes).indexer = indexerAfter ix changes := by
  induction changes using List.reverseRecOn with
  | nil => rfl
  | append_singleton changes change ih =>
    rw [applyAll_concat, indexer_apply, indexerAfter_concat, ih]

theorem size_applyAll (r : FieldRegistry) (ix : Indexer) (changes : List Change) :
    ((empty r ix).applyAll changes).size = insertCount changes := by
  induction changes using List.reverseRecOn with
  | nil => rfl
  | append_singleton changes change ih =>
    rw [applyAll_concat, size_apply, insertCount_concat, ih]

/-- By the last change: what it writes is there, and of any other place the changes before it tell
the story. -/
theorem get?_applyAll_iff {r : FieldRegistry} {ix : Indexer} {changes : List Change} {id : Nat}
    {e : StoredRecord} :
    ((empty r ix).applyAll changes).get? id = some e ↔
      ∃ before record, LastWrite changes before id record ∧
        e = ⟨id, record, (indexerAfter ix before).index record r⟩ := by
  induction changes using List.reverseRecOn generalizing e with
  | nil =>
    constructor
    · intro h
      cases h
    · rintro ⟨before, record, ⟨hwrite, _⟩, _⟩
      exact absurd hwrite.length_lt (Nat.not_lt_zero _)
  | append_singleton changes change ih =>
    have hsize := size_applyAll r ix changes
    rw [applyAll_concat]
    by_cases hwrite : ∃ new, change.write? (insertCount changes) = some (id, new)
    · obtain ⟨new, hwrite⟩ := hwrite
      rw [get?_apply_of_write (hsize ▸ hwrite), entry, indexer_applyAll, registry_applyAll]
      simp only [lastWrite_concat_of_write hwrite]
      constructor
      · intro h
        cases h
        exact ⟨changes, new, ⟨rfl, rfl⟩, rfl⟩
      · rintro ⟨before, record, ⟨rfl, rfl⟩, rfl⟩
        rfl
    · have hnot : ∀ new, change.write? (insertCount changes) ≠ some (id, new) :=
        not_exists.mp hwrite
      rw [get?_apply_of_not_write (hsize.symm ▸ hnot), ih]
      simp only [lastWrite_concat_of_not_write hnot]

/-! ## Replacing -/

theorem exchange_of_get?_eq_none {s : RecordStore} {id : Nat} (h : s.get? id = none)
    (record : Json) : s.exchange id record = (none, s) := by
  unfold get? at h
  simp only [exchange, h]

/-- Where ids are positions, the entry that keeps its id is the one `replace` writes. -/
theorem Numbered.exchange_of_get?_eq_some {s : RecordStore} (hs : s.Numbered) {id : Nat}
    {e : StoredRecord} (h : s.get? id = some e) (record : Json) :
    s.exchange id record = (some e.record, s.replace id record) := by
  have hid := hs id e h
  unfold get? at h
  simp only [exchange, h, replace, entry, hid]

/-- A replacement under an id that is there is one change more to the store. -/
theorem exchange_applyAll_of_lt (r : FieldRegistry) (ix : Indexer) {changes : List Change}
    {id : Nat} (hid : id < insertCount changes) (record : Json) :
    ∃ e, ((empty r ix).applyAll changes).get? id = some e ∧
      ((empty r ix).applyAll changes).exchange id record =
        (some e.record, (empty r ix).applyAll (changes ++ [.replace id record])) := by
  have hnumbered : ((empty r ix).applyAll changes).Numbered :=
    Reachable.numbered ⟨r, ix, changes, rfl⟩
  rw [← size_applyAll r ix] at hid
  obtain ⟨e, hget⟩ : ∃ e, ((empty r ix).applyAll changes).get? id = some e :=
    ⟨_, List.getElem?_eq_getElem hid⟩
  rw [applyAll_concat]
  exact ⟨e, hget, hnumbered.exchange_of_get?_eq_some hget record⟩

/-! ## Searching -/

theorem Numbered.mem_records_iff {s : RecordStore} (hs : s.Numbered) {e : StoredRecord} :
    e ∈ s.records ↔ s.get? e.id = some e := by
  constructor
  · intro h
    obtain ⟨id, hid⟩ := List.mem_iff_getElem?.mp h
    rw [hs id e hid]
    exact hid
  · exact List.mem_of_getElem?

theorem matchesAll_iff {tokens : List String} {ps : List Pattern} :
    Pattern.matchesAll tokens ps = true ↔
      ∀ p ∈ ps, ∃ token ∈ tokens, p.matchesToken token = true := by
  simp only [Pattern.matchesAll, Pattern.matchesAny, List.all_eq_true, List.any_eq_true]

/-- Whatever a store went through, its records are numbered by their inserts, each of which gives the
number; each entry is the last write to its id, with the tokens of the indexer of that write; a
replacement touches its own entry only; and a search goes through the entries in order, by the
tokens they keep. -/
theorem applyAll_empty_entries (r : FieldRegistry) (ix : Indexer) (changes : List Change) :
    let s := (empty r ix).applyAll changes
    (∀ id e, s.get? id = some e → e.id = id) ∧
    s.size = insertCount changes ∧
    (∀ record, s.insert record =
      (insertCount changes, (empty r ix).applyAll (changes ++ [.insert record]))) ∧
    (∀ id e, s.get? id = some e ↔ ∃ before record, LastWrite changes before id record ∧
      e = ⟨id, record, (indexerAfter ix before).index record r⟩) ∧
    (∀ id record, insertCount changes ≤ id → s.exchange id record = (none, s)) ∧
    (∀ id record, id < insertCount changes → ∃ e, s.get? id = some e ∧
      s.exchange id record =
        (some e.record, (empty r ix).applyAll (changes ++ [.replace id record])) ∧
      ∀ other, other ≠ id → (s.exchange id record).2.get? other = s.get? other) ∧
    ∀ query, (s.search query).Pairwise (·.id < ·.id) ∧
      ∀ e, e ∈ s.search query ↔ s.get? e.id = some e ∧
        ∀ p ∈ compile r.lookup query, ∃ token ∈ e.tokens, p.matchesToken token = true := by
  intro s
  have hreachable : s.Reachable := ⟨r, ix, changes, rfl⟩
  have hnumbered : s.Numbered := hreachable.numbered
  have hsize : s.size = insertCount changes := size_applyAll r ix changes
  have hregistry : s.registry = r := registry_applyAll (empty r ix) changes
  refine ⟨hnumbered, hsize, ?_, fun _ _ => get?_applyAll_iff, ?_, ?_, ?_⟩
  · intro record
    rw [applyAll_concat, ← hsize]
    rfl
  · intro id record hid
    rw [← hsize] at hid
    exact exchange_of_get?_eq_none (List.getElem?_eq_none hid) record
  · intro id record hid
    obtain ⟨e, hget, hexchange⟩ := exchange_applyAll_of_lt r ix hid record
    refine ⟨e, hget, hexchange, ?_⟩
    intro other hne
    rw [hexchange, applyAll_concat, apply, get?_replace, if_neg (fun h => hne h.1)]
  · intro query
    refine ⟨hreachable.pairwise_search query, fun e => ?_⟩
    rw [mem_search_iff, hnumbered.mem_records_iff, matchesAll_iff, hregistry]

/-- The second write to `0` was made while punctuation was kept, and no write had the last
indexer. -/
example :
    ((empty ((FieldRegistry.empty "talk").insert (.direct "talk" ⟨"title", .empty⟩))
        ⟨false⟩).applyAll
      [.insert (.object [("title", .string "re-use")]), .setIndexer ⟨true⟩,
        .replace 1 .null, .replace 0 (.object [("title", .string "RE-USE")]),
        .setIndexer ⟨false⟩]).records =
      [⟨0, .object [("title", .string "RE-USE")], ["title:re-use"]⟩] := by
  decide +kernel

end RecordSearch.RecordStore
