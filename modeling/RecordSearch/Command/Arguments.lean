import RecordSearch.Files.Program

/-!
The arguments of the command line. Options may stand before and after the command's name and among
its values; after `--` everything is a value. An option is given once at most on each side of the
command's name, and the side after it wins.
-/

namespace RecordSearch.Command

/-- What is done under a configuration. -/
inductive Task where
  /-- Lists the searchable fields of a type. -/
  | fields (type : String) (json : Bool)
  /-- Adds tokens to records. -/
  | index (type records : String)
  /-- Shows the patterns of a query. -/
  | compile (type query : String) (regex : Bool)
  /-- Filters records by a query. -/
  | search (type records query : String) (tokens : Bool)
  /-- Builds the registry of every type. -/
  | check
  deriving DecidableEq, Repr

inductive Action where
  | task (t : Task)
  /-- Writes an example configuration. -/
  | init (force : Bool)
  deriving DecidableEq, Repr

structure Invocation where
  config : Option String
  verbose : Bool
  action : Action
  deriving DecidableEq, Repr

/-- Why arguments do not make up an invocation. -/
inductive Refusal where
  | help
  | usage
  deriving DecidableEq, Repr

/-! ## The commands' own arguments -/

inductive ValueKind where
  | text
  /-- A path is not empty. -/
  | path
  deriving DecidableEq, Repr

def ValueKind.accepts (v : String) : ValueKind → Bool
  | text => true
  | path => !v.isEmpty

/-- The values a command takes, and the name of its flag. -/
structure Signature where
  values : List ValueKind
  flag : Option String
  deriving DecidableEq, Repr

def signature? (name : String) : Option Signature :=
  match name with
  | "fields" => some ⟨[.text], some "json"⟩
  | "index" => some ⟨[.text, .path], none⟩
  | "compile" => some ⟨[.text, .text], some "regex"⟩
  | "search" => some ⟨[.text, .path, .text], some "tokens"⟩
  | "check" => some ⟨[], none⟩
  | "init" => some ⟨[], some "force"⟩
  | _ => none

def ofValues? (name : String) (values : List String) (flag : Bool) : Option Action :=
  match name, values with
  | "fields", [type] => some (.task (.fields type flag))
  | "index", [type, records] => some (.task (.index type records))
  | "compile", [type, query] => some (.task (.compile type query flag))
  | "search", [type, records, query] => some (.task (.search type records query flag))
  | "check", [] => some (.task .check)
  | "init", [] => some (.init flag)
  | _, _ => none

/-! ## Options -/

/-- What has been read on one side of the command's name. -/
structure Seen where
  config : Option String
  verbose : Bool
  flag : Bool
  values : List String
  deriving DecidableEq, Repr

def Seen.nothing : Seen := ⟨none, false, false, []⟩

def Seen.setVerbose (s : Seen) : Except Refusal Seen :=
  if s.verbose then .error .usage else .ok { s with verbose := true }

def Seen.setConfig (s : Seen) (p : String) : Except Refusal Seen :=
  if s.config.isSome || p.isEmpty then .error .usage else .ok { s with config := some p }

def Seen.setFlag (s : Seen) : Except Refusal Seen :=
  if s.flag then .error .usage else .ok { s with flag := true }

def Seen.addValue (s : Seen) (kinds : List ValueKind) (v : String) : Except Refusal Seen :=
  match kinds[s.values.length]? with
  | some kind =>
    if kind.accepts v then .ok { s with values := s.values ++ [v] } else .error .usage
  | none => .error .usage

/-- Letters after a single dash. -/
def readLetters (s : Seen) : List Char → Except Refusal Seen
  | [] => .ok s
  | 'v' :: cs => do readLetters (← s.setVerbose) cs
  | 'h' :: _ => .error .help
  | _ :: _ => .error .usage

/-- An option without a value after two dashes. -/
def readWord (s : Seen) (flag : Option String) (word : String) : Except Refusal Seen :=
  if word = "verbose" then s.setVerbose
  else if word = "help" then .error .help
  else if flag = some word then s.setFlag
  else .error .usage

/-- A lone dash is a value. -/
def isOption (arg : String) : Bool := arg.toList.head? = some '-' && arg ≠ "-"

/-- The text after `--config=`. -/
def attachedConfig? (arg : String) : Option String :=
  let start := "--config=".toList
  if start.isPrefixOf arg.toList then some (String.ofList (arg.toList.drop start.length)) else none

def readOption (s : Seen) (flag : Option String) (arg : String) : Except Refusal Seen :=
  match attachedConfig? arg with
  | some p => s.setConfig p
  | none =>
    match arg.toList with
    | '-' :: '-' :: word => readWord s flag (String.ofList word)
    | '-' :: letters => readLetters s letters
    | _ => .error .usage

/-! ## The command line -/

/-- Reads the arguments after the command's name. -/
def readArguments (sig : Signature) (s : Seen) : List String → Except Refusal Seen
  | [] => .ok s
  | "--" :: args => args.foldlM (fun s v => s.addValue sig.values v) s
  | "--config" :: p :: args => do
    if isOption p then .error .usage
    readArguments sig (← s.setConfig p) args
  | arg :: args => do
    let s ← if isOption arg then readOption s sig.flag arg else s.addValue sig.values arg
    readArguments sig s args

/-- Help can be asked for about the program, about one command, or about help. -/
def readHelp : List String → Refusal
  | [] => .help
  | [topic] => if topic = "help" || (signature? topic).isSome then .help else .usage
  | _ => .usage

def readCommand (s : Seen) (name : String) (args : List String) : Except Refusal Invocation := do
  match signature? name with
  | none => if name = "help" then .error (readHelp args) else .error .usage
  | some sig =>
    let own ← readArguments sig .nothing args
    match ofValues? name own.values own.flag with
    | some action => .ok ⟨own.config.or s.config, own.verbose || s.verbose, action⟩
    | none => .error .usage

/-- Reads the arguments up to the command's name, and the command. -/
def readInvocation (s : Seen) : List String → Except Refusal Invocation
  | [] => .error .usage
  | "--config" :: p :: args => do
    if isOption p then .error .usage
    readInvocation (← s.setConfig p) args
  | arg :: args =>
    if arg = "--" then .error .usage
    else if isOption arg then do readInvocation (← readOption s none arg) args
    else readCommand s arg args

def parse (args : List String) : Except Refusal Invocation := readInvocation .nothing args

def usage : String :=
  "usage: glean [--config PATH] [-v] COMMAND\n\n" ++
  "  fields TYPE [--json]                      list searchable fields\n" ++
  "  index TYPE RECORDS                        add tokens to records\n" ++
  "  compile TYPE QUERY [--regex]              show the patterns of a query\n" ++
  "  search TYPE RECORDS QUERY [--tokens]      filter records by a query\n" ++
  "  check                                     validate the configuration\n" ++
  "  init [--force]                            write an example configuration\n"

example : (parse ["-v", "search", "movie", "-", "--", "-x"]).toOption =
    some ⟨none, true, .task (.search "movie" "-" "-x" false)⟩ := by decide +kernel
example : (parse ["--config", "a", "check", "--config=b"]).toOption =
    some ⟨some "b", false, .task .check⟩ := by decide +kernel

end RecordSearch.Command
