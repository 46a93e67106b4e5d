import RecordSearch.Registry.Descriptor
import RecordSearch.Query.Lookup

/-!
The searchable fields of one record type, in the order they were first registered. A name is
registered once: a later descriptor of the same name takes the place of the earlier one.
-/

namespace RecordSearch

open RecordSearch.Query

structure FieldRegistry where
  recordType : String
  fields : List FieldDescriptor
  deriving DecidableEq, Repr

namespace FieldRegistry

def empty (recordType : String) : FieldRegistry := ⟨recordType, []⟩

def names (r : FieldRegistry) : List String := r.fields.map (·.name)

def get? (r : FieldRegistry) (name : String) : Option FieldDescriptor :=
  r.fields.find? (·.name == name)

def contains (r : FieldRegistry) (name : String) : Bool := (r.get? name).isSome

def putField (d : FieldDescriptor) : List FieldDescriptor → List FieldDescriptor
  | [] => [d]
  | e :: rest => if e.name = d.name then d :: rest else e :: putField d rest

def insert (r : FieldRegistry) (d : FieldDescriptor) : FieldRegistry :=
  { r with fields := putField d r.fields }

/-- An exact name wins over one that differs in case. -/
def lookup (r : FieldRegistry) : FieldLookup :=
  fun typed => if r.names.contains typed then some typed else lookupIn r.names typed

theorem get?_insert_self (r : FieldRegistry) (d : FieldDescriptor) :
    (r.insert d).get? d.name = some d := by
  have h : ∀ es, (putField d es).find? (·.name == d.name) = some d := by
    intro es
    induction es with
    | nil => simp [putField]
    | cons e rest ih => by_cases he : e.name = d.name <;> simp [putField, he, ih]
  exact h r.fields

theorem get?_insert_of_ne {r : FieldRegistry} {d : FieldDescriptor} {name : String}
    (hne : name ≠ d.name) : (r.insert d).get? name = r.get? name := by
  have h : ∀ es, (putField d es).find? (·.name == name) = es.find? (·.name == name) := by
    intro es
    have hd : (d.name == name) = false := by simpa using Ne.symm hne
    induction es with
    | nil => simp [putField, hd]
    | cons e rest ih =>
      by_cases he : e.name = d.name
      · simp [putField, he, hd]
      · simp [putField, he, List.find?_cons, ih]
  exact h r.fields

theorem mem_names_insert {r : FieldRegistry} {d : FieldDescriptor} {name : String} :
    name ∈ (r.insert d).names ↔ name = d.name ∨ name ∈ r.names := by
  have h : ∀ es, name ∈ (putField d es).map (·.name) ↔ name = d.name ∨ name ∈ es.map (·.name) := by
    intro es
    induction es with
    | nil => simp [putField]
    | cons e rest ih =>
      by_cases he : e.name = d.name
      · simp [putField, he]
      · simp only [putField, he, ↓reduceIte, List.map_cons, List.mem_cons, ih]
        grind
  exact h r.fields

theorem nodup_names_insert {r : FieldRegistry} {d : FieldDescriptor} (h : r.names.Nodup) :
    (r.insert d).names.Nodup := by
  have key : ∀ es : List FieldDescriptor, (es.map (·.name)).Nodup →
      ((putField d es).map (·.name)).Nodup := by
    intro es hes
    induction es with
    | nil => simp [putField]
    | cons e rest ih =>
      simp only [List.map_cons, List.nodup_cons] at hes
      by_cases he : e.name = d.name
      · simp only [putField, he, ↓reduceIte, List.map_cons, List.nodup_cons]
        exact ⟨he ▸ hes.1, hes.2⟩
      · simp only [putField, he, ↓reduceIte, List.map_cons, List.nodup_cons]
        refine ⟨fun hmem => ?_, ih hes.2⟩
        rcases (mem_names_insert (r := ⟨"", rest⟩)).mp hmem with h | h
        · exact he h
        · exact hes.1 h
  exact key r.fields h

theorem mem_names_of_lookup {r : FieldRegistry} {typed name : String}
    (h : r.lookup typed = some name) : name ∈ r.names := by
  unfold lookup at h
  split at h
  · rename_i hc
    simp only [Option.some.injEq] at h
    rw [← h]
    simpa using hc
  · exact mem_of_lookupIn h

theorem lookup_of_mem {r : FieldRegistry} {name : String} (h : name ∈ r.names) :
    r.lookup name = some name :=
  if_pos (List.contains_iff_mem.mpr h)

theorem lower_of_lookup {r : FieldRegistry} {typed name : String}
    (h : r.lookup typed = some name) : Text.lower name = Text.lower typed := by
  unfold lookup at h
  split at h
  · rw [Option.some.inj h]
  · exact lower_of_lookupIn h

end FieldRegistry

end RecordSearch
