import RecordSearch.Command.Arguments
import RecordSearch.Command.Check
import RecordSearch.Command.Listing
import RecordSearch.Command.Records
import RecordSearch.Config.Template
import RecordSearch.Json.Reader

/-!
Running the command line. A command stops at the first thing that fails: the arguments, the
configuration, the registry of the type, the records, in this order. About a text that is not
readable nothing is said after its name.
-/

namespace RecordSearch.Command

open RecordSearch.Query

/-! ## What commands work on -/

/-- The configuration in a given file, or the one that applies to the directory. -/
def loadConfig (home cwd : String) : Option String → Program (Except ConfigError LoadedConfig)
  | some p => Config.loadFile p
  | none => Config.load home cwd

def configFailure (e : ConfigError) : Report :=
  .failure ("error: failed to load configuration: " ++ e.message ++
    (match e with
    | .malformed _ => ""
    | _ => "\n"))

/-- The registry of a type, for a command that needs no other. -/
def withRegistry (c : Config) (type : String) (next : FieldRegistry → Program Report) :
    Program Report := do
  let (answer, catalog) := c.catalog.registry type
  let report ← match answer with
    | .ok r => next r
    | .error e => pure (.error e.message)
  return report.after (newRedeclarations c.catalog catalog)

/-- The path of a single dash stands for standard input. -/
def readText (p : String) : Program (Except FileError String) :=
  if Path.same p "-" then return .ok (← Program.readsInput) else Program.reads p

def withRecords (p : String) (next : List Json → Report) : Program Report := do
  match ← readText p with
  | .error e => return .error ("failed to read " ++ p ++ ": " ++ e.message)
  | .ok text =>
    match Json.read? text with
    | none => return .failure ("error: invalid JSON in " ++ p)
    | some value => return next (recordsOf value)

/-! ## Commands -/

def fieldsReport (c : Config) (type : String) (json : Bool) (r : FieldRegistry) : Report :=
  let keep := c.settings.keepPunctuation
  if json then .json (.array (r.fields.map (listingJson keep)))
  else if r.fields.isEmpty then .success (type ++ ": no searchable fields\n")
  else .success (String.join ((listingLines keep r.fields).map (· ++ "\n")))

def indexReport (c : Config) (r : FieldRegistry) (records : List Json) : Report :=
  match indexRecords c r records with
  | .ok indexed => .json (.array indexed)
  | .error n => .error ("record " ++ toString n ++ " is not a JSON object")

def compileReport (query : String) (regex : Bool) (r : FieldRegistry) : Report :=
  let patterns := compile r.lookup query
  if !regex then .json (.array (patterns.map Pattern.toJson))
  else
    let blank := if patterns.isEmpty then "blank query: matches every record\n" else ""
    ⟨0, String.join (patterns.map fun p => p.regex.text ++ "\n"), blank⟩

def searchReport (c : Config) (query : String) (tokens : Bool) (r : FieldRegistry)
    (records : List Json) : Report :=
  let matching := searchRecords c r query records
  (Report.json (.array (matching.map (found tokens)))).after
    (toString matching.length ++ " of " ++ toString records.length ++ " records match\n")

/-- Writes the example configuration, over a file that is there only if forced to. -/
def writeTemplate (p : String) (force : Bool) : Program Report := do
  if !force && (← Program.asksThere p) then
    return .failure (Report.errorLine ("configuration file already exists: " ++ p) ++
      "use --force to overwrite\n")
  else
    match ← Program.writes p Config.template with
    | .ok () => return .success ("Created " ++ p ++ "\n")
    | .error e => return .error ("failed to write " ++ p ++ ": " ++ e.message)

def runTask (loaded : LoadedConfig) : Task → Program Report
  | .fields type json =>
    withRegistry loaded.config type fun r => return fieldsReport loaded.config type json r
  | .index type records =>
    withRegistry loaded.config type fun r => withRecords records (indexReport loaded.config r)
  | .compile type query regex =>
    withRegistry loaded.config type fun r => return compileReport query regex r
  | .search type records query tokens =>
    withRegistry loaded.config type fun r =>
      withRecords records (searchReport loaded.config query tokens r)
  | .check => return check loaded

/-- The example configuration can be written where no configuration is readable. -/
def runInvocation (home cwd : String) (i : Invocation) : Program Report :=
  match i.action with
  | .init force => writeTemplate (i.config.getD (Path.join cwd Config.fileName)) force
  | .task t => do
    match ← loadConfig home cwd i.config with
    | .error e => return configFailure e
    | .ok loaded => runTask loaded t

/-- Runs the command line in the directory `cwd`, for a user whose files are under `home`. -/
def run (home cwd : String) (args : List String) : Program Report :=
  match parse args with
  | .error .help => return .success usage
  | .error .usage => return .misuse usage
  | .ok i => runInvocation home cwd i

end RecordSearch.Command
