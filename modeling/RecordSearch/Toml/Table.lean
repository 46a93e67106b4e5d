import RecordSearch.Toml.Value

/-!
Tables while a TOML document is being read. A table remembers how it came about, which decides what
may still be added to it: a header opens a table once, dotted keys extend only tables that dotted
keys made, and an array of tables is extended in its last element.
-/

namespace RecordSearch.Toml

/-- How a table came about. -/
inductive Origin where
  /-- As part of the path of a header. -/
  | implied
  /-- As part of a dotted key. -/
  | dotted
  /-- By a header of its own. -/
  | opened
  deriving DecidableEq, Repr

inductive Node where
  /-- A value, to which nothing can be added. -/
  | value (v : Toml)
  | table (origin : Origin) (entries : List (String × Node))
  /-- An array of tables, one for each of its headers. -/
  | tables (elements : List (List (String × Node)))
  deriving Inhabited

abbrev Entries := List (String × Node)

namespace Node

mutual

def toToml : Node → Toml
  | value v => v
  | table _ es => .table (entriesToToml es)
  | tables ts => .array (tablesToToml ts)

def entriesToToml : Entries → List (String × Toml)
  | [] => []
  | (k, n) :: es => (k, toToml n) :: entriesToToml es

def tablesToToml : List Entries → List Toml
  | [] => []
  | es :: ts => .table (entriesToToml es) :: tablesToToml ts

end

end Node

namespace Entries

/-- Puts a node in the place of the one under `key`, or at the end. -/
def put (key : String) (n : Node) : Entries → Entries
  | [] => [(key, n)]
  | (k, m) :: es => if k = key then (k, n) :: es else (k, m) :: put key n es

/-- Changes the last element of an array of tables. -/
def changeLast? (f : Entries → Option Entries) : List Entries → Option (List Entries)
  | [] => none
  | [es] => (f es).map ([·])
  | es :: ts => (changeLast? f ts).map (es :: ·)

/-- Changes the table that the path of a header leads to, making the tables on the way. -/
def changeAt? (f : Entries → Option Entries) : List String → Entries → Option Entries
  | [], es => f es
  | key :: path, es =>
    match es.lookup key with
    | none => (changeAt? f path []).map fun sub => put key (.table .implied sub) es
    | some (.table origin sub) =>
      (changeAt? f path sub).map fun sub => put key (.table origin sub) es
    | some (.tables ts) =>
      (changeLast? (changeAt? f path) ts).map fun ts => put key (.tables ts) es
    | some (.value _) => none

/-- Opens the table `key`, which may be there as part of the path of another header. -/
def openTable? (key : String) (es : Entries) : Option Entries :=
  match es.lookup key with
  | none => some (put key (.table .opened []) es)
  | some (.table .implied sub) => some (put key (.table .opened sub) es)
  | some _ => none

/-- Adds an empty table to the array of tables `key`. -/
def openElement? (key : String) (es : Entries) : Option Entries :=
  match es.lookup key with
  | none => some (put key (.tables [[]]) es)
  | some (.tables ts) => some (put key (.tables (ts ++ [[]])) es)
  | some _ => none

/-- Adds a value under a dotted key, which is `path` and then `key`. -/
def add? (v : Toml) (key : String) : List String → Entries → Option Entries
  | [], es => if (es.lookup key).isNone then some (put key (.value v) es) else none
  | part :: path, es =>
    match es.lookup part with
    | none => (add? v key path []).map fun sub => put part (.table .dotted sub) es
    | some (.table .dotted sub) =>
      (add? v key path sub).map fun sub => put part (.table .dotted sub) es
    | some (.table .implied sub) =>
      if path.isEmpty then none
      else (add? v key path sub).map fun sub => put part (.table .implied sub) es
    | some (.tables ts) =>
      if path.isEmpty then none
      else (changeLast? (add? v key path) ts).map fun ts => put part (.tables ts) es
    | some _ => none

end Entries

end RecordSearch.Toml
