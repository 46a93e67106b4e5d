import RecordSearch.Config.Layout
import RecordSearch.Config.Discovery
import RecordSearch.Files.Program

/-!
Loading the configuration that applies to a directory, or the one in a given file.
-/

namespace RecordSearch

inductive ConfigError where
  | unreadable (p : String) (reason : FileError)
  /-- Not TOML, or not of the layout. -/
  | malformed (p : String)
  /-- No file applies to the directory. -/
  | missing (cwd : String)
  deriving DecidableEq, Repr

def ConfigError.message : ConfigError → String
  | unreadable p reason => "failed to read config file " ++ p ++ ": " ++ reason.message
  | malformed p => "failed to parse config file " ++ p
  | missing cwd => "no .glean.toml found in " ++ cwd ++ " or its parents (run `glean init`)"

/-- A configuration and the file it came from. -/
structure LoadedConfig where
  path : String
  config : Config
  deriving DecidableEq, Repr

namespace Config

def ofFile (p : String) : Except FileError String → Except ConfigError LoadedConfig
  | .error e => .error (.unreadable p e)
  | .ok text =>
    match read? text with
    | some config => .ok ⟨p, config⟩
    | none => .error (.malformed p)

def loadFile (p : String) : Program (Except ConfigError LoadedConfig) := do
  return ofFile p (← Program.reads p)

def load (home cwd : String) : Program (Except ConfigError LoadedConfig) := do
  match ← Program.firstFile (candidates home cwd) with
  | some p => loadFile p
  | none => return .error (.missing cwd)

end Config

end RecordSearch
