import RecordSearch.Schema.Declaration
import RecordSearch.Schema.Ordered

/-!
Record types and the schema they form: the plain fields of each type, its relations to other types,
and its search declarations in order. Types, fields and relations are kept in order of their names.
-/

namespace RecordSearch

/-- How many related records are expected; the shape found in a record counts, not this. -/
inductive Cardinality where
  | one
  | many
  deriving DecidableEq, Repr

structure Relation where
  target : String
  cardinality : Cardinality
  deriving DecidableEq, Repr

structure RecordType where
  fields : List String
  relations : List (String × Relation)
  declarations : List Declaration
  deriving DecidableEq, Repr

namespace RecordType

def empty : RecordType := ⟨[], [], []⟩

def addField (t : RecordType) (name : String) : RecordType :=
  { t with fields := Ordered.insertName name t.fields }

def addRelation (t : RecordType) (name : String) (r : Relation) : RecordType :=
  { t with relations := Ordered.insert name r t.relations }

def declare (t : RecordType) (d : Declaration) : RecordType :=
  { t with declarations := t.declarations ++ [d] }

def ofParts (fields : List String) (relations : List (String × Relation))
    (declarations : List Declaration) : RecordType :=
  declarations.foldl declare
    (relations.foldl (fun t r => t.addRelation r.1 r.2) (fields.foldl addField empty))

def hasField (t : RecordType) (name : String) : Bool := t.fields.contains name

def relation? (t : RecordType) (name : String) : Option Relation := t.relations.lookup name

end RecordType

structure Schema where
  types : List (String × RecordType)
  deriving DecidableEq, Repr

namespace Schema

def empty : Schema := ⟨[]⟩

/-- A type of the same name is replaced. -/
def insert (s : Schema) (name : String) (t : RecordType) : Schema :=
  ⟨Ordered.insert name t s.types⟩

def get? (s : Schema) (name : String) : Option RecordType := s.types.lookup name

def names (s : Schema) : List String := s.types.map (·.1)

theorem get?_insert_self (s : Schema) (name : String) (t : RecordType) :
    (s.insert name t).get? name = some t :=
  Ordered.lookup_insert_self name t s.types

theorem get?_insert_of_ne {s : Schema} {name other : String} (h : other ≠ name) (t : RecordType) :
    (s.insert name t).get? other = s.get? other :=
  Ordered.lookup_insert_of_ne h t s.types

theorem mem_names_of_get? {s : Schema} {name : String} {t : RecordType}
    (h : s.get? name = some t) : name ∈ s.names := by
  have := List.lookup_eq_some_iff.mp h
  obtain ⟨l₁, l₂, heq, -⟩ := this
  simp [names, heq]

end Schema

/-! ## From JSON -/

/-- A name, or the name as the one key of an object, over null. -/
def Cardinality.ofJson? : Json → Option Cardinality
  | .string "one" | .object [("one", .null)] => some .one
  | .string "many" | .object [("many", .null)] => some .many
  | _ => none

/-- A relation leads to one record unless it says otherwise. The parts may also stand in a list, in
their order. -/
def Relation.ofParts? : Option Json → Option Json → Option Relation
  | some (.string target), none => some ⟨target, .one⟩
  | some (.string target), some c => (Cardinality.ofJson? c).map (⟨target, ·⟩)
  | _, _ => none

def Relation.ofJson? : Json → Option Relation
  | .object es => ofParts? (es.lookup "target") (es.lookup "cardinality")
  | .array [target] => ofParts? (some target) none
  | .array [target, cardinality] => ofParts? (some target) (some cardinality)
  | _ => none

end RecordSearch
