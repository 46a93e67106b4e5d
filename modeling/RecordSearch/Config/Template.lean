import RecordSearch.Config.Layout

/-!
The example configuration that a new project starts from: every line of it is a comment, and without
the marks that make it one it is a configuration (`exampleLines`).
-/

namespace RecordSearch.Config

def exampleLines : List String :=
  ["# glean configuration.",
   "#",
   "# Declares record types, their fields and relations, and which fields are",
   "# searchable. Records are JSON objects; related records are embedded under",
   "# the relation name (an object for `one`, an array for `many`).",
   "",
   "[settings]",
   "# Record key `glean index` writes the token sequence to.",
   "index_field = \"searchable_values\"",
   "# Keep punctuation in indexed words unless a declaration says otherwise.",
   "keep_punctuation = false",
   "",
   "[types.person]",
   "fields = [\"name\", \"email\"]",
   "search = [\x7b field = \"name\" \x7d, \x7b field = \"email\", keep_punctuation = true \x7d]",
   "",
   "[types.movie]",
   "fields = [\"title\", \"tags\", \"metadata\"]",
   "relations = \x7b actors = \x7b type = \"person\", cardinality = \"many\" \x7d \x7d",
   "",
   "[[types.movie.search]]",
   "field = \"title\"",
   "",
   "[[types.movie.search]]",
   "field = \"tags\"",
   "",
   "# Key-value field: query with `metadata:director:smithee`.",
   "[[types.movie.search]]",
   "field = \"metadata\"",
   "",
   "# Exposes `cast_name`; `only`/`except` take a name or a list.",
   "[[types.movie.search]]",
   "field = \"actors\"",
   "alias = \"cast\"",
   "only = \"name\""]

/-- Empty lines and comments stay as they are. -/
def commented (line : String) : String :=
  if line.isEmpty || line.toList.head? = some '#' then line else "# " ++ line

def template : String := String.join (exampleLines.map fun line => commented line ++ "\n")

end RecordSearch.Config
