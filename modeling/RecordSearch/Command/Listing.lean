import RecordSearch.Registry.Basic

/-!
Lists of the searchable fields of a type: as JSON, and as text in three columns, the name, the part
that relations contribute to it, and the path to the value.
-/

namespace RecordSearch.Command

def listingJson (keepPunctuation : Bool) (d : FieldDescriptor) : Json :=
  .object [("name", .string d.name),
    ("prefix", match d.lead with | some lead => .string lead | none => .null),
    ("source", .string d.source),
    ("keep_punctuation", .bool (d.keepsPunctuation keepPunctuation))]

/-! ## Columns -/

/-- Fills a text up to a number of characters. -/
def padded (width : Nat) (s : String) : String :=
  s ++ String.ofList (List.replicate (width - s.length) ' ')

/-- The width of a column is measured in bytes. -/
def columnWidth (cells : List String) : Nat := (cells.map String.utf8ByteSize).foldl max 0

/-- Fields that are not reached through a relation have a dash for its part. -/
def leadCell (d : FieldDescriptor) : String := d.lead.getD "-"

def listingLine (nameWidth leadWidth : Nat) (keepPunctuation : Bool) (d : FieldDescriptor) :
    String :=
  padded nameWidth d.name ++ "  " ++ padded leadWidth (leadCell d) ++ "  <- " ++ d.source ++
    (if d.keepsPunctuation keepPunctuation then "  (keeps punctuation)" else "")

def listingLines (keepPunctuation : Bool) (fields : List FieldDescriptor) : List String :=
  fields.map (listingLine (columnWidth (fields.map (·.name)))
    (columnWidth (fields.map leadCell)) keepPunctuation)

end RecordSearch.Command
