import RecordSearch.Schema.RecordType
import RecordSearch.Field.Extraction
import RecordSearch.Inflection

/-!
The descriptors of searchable fields: the name tokens are stored under, where the value is found in
a record, and the options in force. A field that is reached through relations has one part for each
of them in front of its name.
-/

namespace RecordSearch

open RecordSearch.Inflection

structure FieldDescriptor where
  /-- The record type the descriptor belongs to. -/
  owner : String
  /-- The name tokens are stored under. -/
  name : String
  /-- The parts of the name that relations contribute, the outermost first. -/
  lead : Option String
  /-- The name of the field itself, without these parts. -/
  baseName : String
  /-- The relations that lead to the field, the outermost first. -/
  relations : List String
  field : String
  /-- The options of the declarations on the way, merged. -/
  options : SearchOptions
  deriving DecidableEq, Repr

namespace FieldDescriptor

/-- A plain field goes by its alias, or by its name in the singular. -/
def direct (owner : String) (d : Declaration) : FieldDescriptor where
  owner
  name := d.options.aliasName.getD (normalize d.field)
  lead := none
  baseName := d.options.aliasName.getD d.field
  relations := []
  field := d.field
  options := d.options

/-- The part a relation contributes: its alias, or its name in the singular. -/
def part (d : Declaration) : Option String :=
  if d.options.skipsPart then none else some (d.options.aliasName.getD (singularize d.field))

def joinParts : Option String → String → String
  | some part, name => part ++ "_" ++ name
  | none, name => name

/-- The descriptor of `inner`, a field of the related type, seen from the owner of the relation. -/
def through (owner : String) (d : Declaration) (inner : FieldDescriptor) : FieldDescriptor where
  owner
  name := joinParts (part d) inner.name
  lead := match inner.lead with
    | some deeper => some (joinParts (part d) deeper)
    | none => part d
  baseName := inner.baseName
  relations := d.field :: inner.relations
  field := inner.field
  options := d.options.mergedOver inner.options

def path (d : FieldDescriptor) : List String := d.relations ++ [d.field]

def source (d : FieldDescriptor) : String := ".".intercalate d.path

def keepsPunctuation (d : FieldDescriptor) (default : Bool) : Bool :=
  d.options.keepPunctuation.getD default

def valueIn (d : FieldDescriptor) (record : Json) : FieldValue :=
  FieldValue.along d.relations d.field record

end FieldDescriptor

end RecordSearch
