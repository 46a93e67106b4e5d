/-!
Lists in ascending order of names: a set of names, and entries under names. Names are compared
character by character, by code point. A name occurs once; inserting an entry under a name that is
there replaces it.
-/

namespace RecordSearch.Ordered

def insertName (name : String) : List String → List String
  | [] => [name]
  | n :: rest =>
    if n = name then n :: rest
    else if name < n then name :: n :: rest
    else n :: insertName name rest

def insert {α : Type} (name : String) (value : α) : List (String × α) → List (String × α)
  | [] => [(name, value)]
  | (n, v) :: rest =>
    if n = name then (n, value) :: rest
    else if name < n then (name, value) :: (n, v) :: rest
    else (n, v) :: insert name value rest

theorem mem_insertName {name x : String} {names : List String} :
    x ∈ insertName name names ↔ x = name ∨ x ∈ names := by
  induction names with
  | nil => simp [insertName]
  | cons n rest ih =>
    by_cases h : n = name
    · simp [insertName, h]
    · by_cases hlt : name < n
      · simp [insertName, h, hlt]
      · simp only [insertName, h, hlt, ↓reduceIte, List.mem_cons, ih]
        grind

theorem lookup_insert_self {α : Type} (name : String) (value : α) (entries : List (String × α)) :
    (insert name value entries).lookup name = some value := by
  induction entries with
  | nil => simp [insert]
  | cons e rest ih =>
    obtain ⟨n, v⟩ := e
    by_cases h : n = name
    · simp [insert, h]
    · have hb : (name == n) = false := by simpa using Ne.symm h
      by_cases hlt : name < n
      · simp [insert, h, hlt]
      · simp [insert, h, hlt, List.lookup_cons, hb, ih]

theorem lookup_insert_of_ne {α : Type} {name other : String} (h : other ≠ name) (value : α)
    (entries : List (String × α)) :
    (insert name value entries).lookup other = entries.lookup other := by
  have hb : (other == name) = false := by simpa using h
  induction entries with
  | nil => simp [insert, List.lookup_cons, hb]
  | cons e rest ih =>
    obtain ⟨n, v⟩ := e
    by_cases he : n = name
    · simp [insert, he, List.lookup_cons, hb]
    · by_cases hlt : name < n
      · simp [insert, he, hlt, List.lookup_cons, hb]
      · simp [insert, he, hlt, List.lookup_cons, ih]

end RecordSearch.Ordered
