/-!
Paths as text: joining a name to a directory, the directories above a path, and when two texts are
the same path. Separators may be doubled, and a dot may stand for the directory itself; neither
counts, except for a dot at the start of a relative path.
-/

namespace RecordSearch.Path

def isSeparator (c : Char) : Bool := c = '/'

def isAbsolute (p : List Char) : Bool := p.head? = some '/'

/-- The names between separators, with empty ones where separators meet or end the path. -/
def pieces : List Char → List (List Char)
  | [] => [[]]
  | c :: cs =>
    if isSeparator c then [] :: pieces cs
    else
      match pieces cs with
      | [] => [[c]]
      | name :: names => (c :: name) :: names

def isDot (name : List Char) : Bool := name == ['.']

/-- The names that make up a path, a leading separator as a name of its own. -/
def components (p : String) : List (List Char) :=
  let names := (pieces p.toList).filter (!·.isEmpty)
  if isAbsolute p.toList then ['/'] :: names.filter (!isDot ·)
  else
    match names with
    | [] => []
    | first :: rest => first :: rest.filter (!isDot ·)

def same (p q : String) : Bool := components p == components q

/-- An absolute name stands for itself. -/
def join (dir name : String) : String :=
  if isAbsolute name.toList || dir.isEmpty then name
  else if dir.toList.getLast? = some '/' then dir ++ name
  else dir ++ "/" ++ name

/-! ## Directories above a path -/

/-- Drops separators and dots from the start of a path written backwards. -/
def trimBackwards : List Char → List Char
  | '/' :: cs => trimBackwards cs
  | '.' :: '/' :: cs => trimBackwards cs
  | cs => cs

/-- The path without its last name, as it is written; the root and the empty path have none. -/
def parent? (p : String) : Option String :=
  match trimBackwards p.toList.reverse with
  | [] => none
  | cs =>
    let above := cs.dropWhile (!isSeparator ·)
    let rest := trimBackwards above
    some (String.ofList (if rest.isEmpty && !above.isEmpty then ['/'] else rest.reverse))

/-- A path and the directories above it; `fuel` bounds their number. -/
def ancestorsWithin : Nat → String → List String
  | 0, _ => []
  | fuel + 1, p =>
    p :: match parent? p with
      | some q => ancestorsWithin fuel q
      | none => []

def ancestors (p : String) : List String := ancestorsWithin (p.length + 1) p

example : ancestors "/r//a/./b/" = ["/r//a/./b/", "/r//a", "/r", "/"] := by decide +kernel
example : ancestors "a/b" = ["a/b", "a", ""] := by decide +kernel
example : same "/a/./b//c" "/a/b/c/" = true := by decide +kernel

end RecordSearch.Path
