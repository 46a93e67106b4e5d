import RecordSearch.Files.Path

/-!
A tree of directories and text files, and what happens when a path is read, written or asked about.
A path is followed name by name; every name but the last has to be a directory, even where `..`
leads back out of it. A separator after the last name asks for a directory, so nothing can be
written there.
-/

namespace RecordSearch

inductive FileError where
  | notFound
  | isDirectory
  | notDirectory
  /-- Of the whole path or of a name on it. -/
  | tooLong
  | holdsNul
  /-- Any other reason, in the system's words. -/
  | other (text : String)
  deriving DecidableEq, Repr

def FileError.message : FileError → String
  | notFound => "No such file or directory (os error 2)"
  | notDirectory => "Not a directory (os error 20)"
  | isDirectory => "Is a directory (os error 21)"
  | tooLong => "File name too long (os error 36)"
  | holdsNul => "file name contained an unexpected NUL byte"
  | other text => text

/-- Directories and files under the names that lead to them from the root. -/
structure FileTree where
  directories : List (List String)
  files : List (List String × String)
  deriving DecidableEq, Repr

namespace FileTree

/-- The most bytes that a name may have. -/
def nameLimit : Nat := 255

/-- The most bytes that a path may have. -/
def pathLimit : Nat := 4095

/-- What a name in a directory stands for. -/
inductive Place where
  | directory (location : List String)
  | file (location : List String) (content : String)
  | vacant (location : List String)
  deriving DecidableEq, Repr

/-- Where a path ends. -/
inductive Target where
  /-- At the root, or at a dot or two dots. -/
  | directory (location : List String)
  /-- At a name in a directory; `closed` says that a separator follows the name. -/
  | entry (location : List String) (name : String) (closed : Bool)
  deriving DecidableEq, Repr

def hasDirectory (t : FileTree) (location : List String) : Bool :=
  location.isEmpty || t.directories.contains location

def content? (t : FileTree) (location : List String) : Option String := t.files.lookup location

def look (t : FileTree) (directory : List String) (name : String) : Except FileError Place :=
  let location := directory ++ [name]
  if nameLimit < name.utf8ByteSize then .error .tooLong
  else if t.hasDirectory location then .ok (.directory location)
  else
    match t.content? location with
    | some content => .ok (.file location content)
    | none => .ok (.vacant location)

/-- Follows names from a directory. -/
def follow (t : FileTree) (location : List String) : List String → Except FileError Target
  | [] => .ok (.directory location)
  | name :: names =>
    if name = "" || name = "." then follow t location names
    else if name = ".." then follow t location.dropLast names
    else if names.all (·.isEmpty) then .ok (.entry location name (!names.isEmpty))
    else
      match t.look location name with
      | .ok (.directory next) => follow t next names
      | .ok (.file _ _) => .error .notDirectory
      | .ok (.vacant _) => .error .notFound
      | .error e => .error e

/-- Follows a path from the working directory `base` as far as the directory of its last name. -/
def target (t : FileTree) (base : List String) (p : String) : Except FileError Target :=
  if p.toList.contains '\x00' then .error .holdsNul
  else if p.isEmpty then .error .notFound
  else if pathLimit < p.utf8ByteSize then .error .tooLong
  else
    let names := (Path.pieces p.toList).map String.ofList
    t.follow (if Path.isAbsolute p.toList then [] else base) names

/-- What a path from the working directory `base` leads to. -/
def resolve (t : FileTree) (base : List String) (p : String) : Except FileError Place :=
  match t.target base p with
  | .ok (.directory location) => .ok (.directory location)
  | .ok (.entry location name closed) =>
    match t.look location name, closed with
    | .ok (.file _ _), true => .error .notDirectory
    | place, _ => place
  | .error e => .error e

def read (t : FileTree) (base : List String) (p : String) : Except FileError String :=
  match t.resolve base p with
  | .ok (.file _ content) => .ok content
  | .ok (.directory _) => .error .isDirectory
  | .ok (.vacant _) => .error .notFound
  | .error e => .error e

def isFile (t : FileTree) (base : List String) (p : String) : Bool :=
  match t.resolve base p with
  | .ok (.file _ _) => true
  | _ => false

def isThere (t : FileTree) (base : List String) (p : String) : Bool :=
  match t.resolve base p with
  | .ok (.file _ _) | .ok (.directory _) => true
  | _ => false

def putFile (location : List String) (content : String) :
    List (List String × String) → List (List String × String)
  | [] => [(location, content)]
  | (l, c) :: rest =>
    if l = location then (l, content) :: rest else (l, c) :: putFile location content rest

/-- Writes a file, which need not be there before. -/
def write (t : FileTree) (base : List String) (p content : String) : Except FileError FileTree :=
  match t.target base p with
  | .ok (.directory _) | .ok (.entry _ _ true) => .error .isDirectory
  | .ok (.entry location name false) =>
    match t.look location name with
    | .ok (.directory _) => .error .isDirectory
    | .ok (.file place _) | .ok (.vacant place) =>
      .ok { t with files := putFile place content t.files }
    | .error e => .error e
  | .error e => .error e

/-! ## Building a tree -/

/-- The directories on the way to a location, itself among them. -/
def prefixes (location : List String) : List (List String) :=
  (List.range location.length).map fun n => location.take (n + 1)

def addDirectory (t : FileTree) (location : List String) : FileTree :=
  { t with directories := t.directories ++ prefixes location }

/-- Adds a file and the directories that lead to it. -/
def addFile (t : FileTree) (location : List String) (content : String) : FileTree :=
  { t.addDirectory location.dropLast with files := putFile location content t.files }

end FileTree

end RecordSearch
