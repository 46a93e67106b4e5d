import RecordSearch.Text.Lowercase

/-!
How a query names fields: a lookup takes a name as typed to the field's own name.
-/

namespace RecordSearch.Query

open RecordSearch.Text

/-- The name tokens are stored under, for a typed name that names a field. -/
abbrev FieldLookup := String → Option String

/-- The first of the names that equals the typed one in lower case. -/
def lookupIn (names : List String) : FieldLookup :=
  fun typed => names.find? fun name => lower name == lower typed

theorem mem_of_lookupIn {names : List String} {typed name : String}
    (h : lookupIn names typed = some name) : name ∈ names :=
  List.mem_of_find?_eq_some h

theorem lower_of_lookupIn {names : List String} {typed name : String}
    (h : lookupIn names typed = some name) : lower name = lower typed := by
  simpa using List.find?_some h

end RecordSearch.Query
