import RecordSearch.Command.Report
import RecordSearch.Config.Loading
import RecordSearch.Text.Quoted

/-!
Checking a configuration: the registry of every type is built, in the order of the types' names,
and the types whose registries fail are pointed out.
-/

namespace RecordSearch.Command

open RecordSearch.Text

/-! ## Redeclarations -/

def redeclarationLine (d : Redeclaration) : String :=
  " WARN glean_index::registry: searchable field redeclared, later declaration wins record_type=" ++
    d.recordType ++ " field=" ++ quoted d.name ++ "\n"

/-- The messages about what was redeclared between two states of a catalog. -/
def newRedeclarations (earlier later : Catalog) : String :=
  String.join ((later.redeclarations.drop earlier.redeclarations.length).map redeclarationLine)

/-! ## Types -/

/-- The lines for one type, and whether its registry was built. -/
structure TypeLine where
  out : String
  err : String
  built : Bool
  deriving DecidableEq, Repr

def typeLine (name : String) : Except SchemaError FieldRegistry → TypeLine
  | .ok r => ⟨"  " ++ name ++ ": " ++ toString r.fields.length ++ " searchable fields\n", "", true⟩
  | .error e => ⟨"  " ++ name ++ ": error\n", Report.errorLine e.message, false⟩

/-- Builds the registries of the names, in their order. -/
def typeLines (c : Catalog) : List String → List TypeLine
  | [] => []
  | name :: names =>
    let (answer, later) := c.registry name
    let line := typeLine name answer
    { line with err := newRedeclarations c later ++ line.err } :: typeLines later names

def typesReport (lines : List TypeLine) : Report :=
  let built := lines.all (·.built)
  { code := if built then 0 else 1
    out := "Record types:\n" ++ String.join (lines.map (·.out)) ++ "\n" ++
      (if built then "No issues found.\n" else "")
    err := String.join (lines.map (·.err)) }

/-! ## The whole report -/

def settingsLine (s : Settings) : String :=
  "Settings: index_field = " ++ quoted s.indexField ++ ", keep_punctuation = " ++
    (if s.keepPunctuation then "true" else "false") ++ "\n"

def checkHeading (loaded : LoadedConfig) : String :=
  "Checking configuration...\n\nConfig file: " ++ loaded.path ++ "\n" ++
    settingsLine loaded.config.settings ++ "\n"

def check (loaded : LoadedConfig) : Report :=
  let names := loaded.config.schema.names
  let types := if names.isEmpty then .success "No record types defined.\n"
    else typesReport (typeLines loaded.config.catalog names)
  { types with out := checkHeading loaded ++ types.out }

end RecordSearch.Command
