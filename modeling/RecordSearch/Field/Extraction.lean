import RecordSearch.Field.Value

/-!
Following relations from a record to the value of a field. Related records are embedded under the
name of the relation, one or many; what is found there counts, whatever was declared.
-/

namespace RecordSearch.FieldValue

/-- The value under the name of a plain field. -/
def atField (name : String) (record : Json) : FieldValue :=
  match record.get? name with
  | none => absent
  | some v => ofJson v

/-- The field `name` of the records that the relations lead to, the outermost relation first. A
list of related records gives one list of their values, spliced together. -/
def along : List String → String → Json → FieldValue
  | [], name, record => atField name record
  | r :: rs, name, record =>
    match record.get? r with
    | none => absent
    | some .null => absent
    | some (.array items) => flattened (items.map (along rs name))
    | some related => along rs name related

end RecordSearch.FieldValue
