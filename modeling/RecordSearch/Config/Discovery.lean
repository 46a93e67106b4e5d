import RecordSearch.Files.Path

/-!
Which configuration file applies to a directory: the closest one at or above it, or the global one
in the home directory.
-/

namespace RecordSearch.Config

def fileName : String := ".glean.toml"

def globalPath (home : String) : String := Path.join home fileName

def isGlobal (home : String) (p : String) : Bool := Path.same p (globalPath home)

/-- The places to look at, in order. -/
def candidates (home cwd : String) : List String :=
  (Path.ancestors cwd).map (Path.join · fileName) ++ [globalPath home]

/-- The file that applies to `cwd`, given which paths are files. -/
def discover? (isFile : String → Bool) (home cwd : String) : Option String :=
  (candidates home cwd).find? isFile

end RecordSearch.Config
