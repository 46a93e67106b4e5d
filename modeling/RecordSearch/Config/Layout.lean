import RecordSearch.Toml.Reader
import RecordSearch.Registry.Resolution
import RecordSearch.Index.Tokens

/-!
Configurations and their layout in TOML: a `settings` table, and under `types` one table for each
record type with its `fields`, `relations` and `search` declarations.

Unknown keys are ignored, as long as the numbers under them are readable. Where the layout has a
table of fixed keys, an array gives the values of the keys in their order, and a date is a table
without any of them.
-/

namespace RecordSearch

open RecordSearch.Index

structure Settings where
  /-- The key under which a record gets its tokens. -/
  indexField : String
  /-- Whether declarations that do not say so themselves keep punctuation. -/
  keepPunctuation : Bool
  deriving DecidableEq, Repr

def Settings.default : Settings := ⟨"searchable_values", false⟩

structure Config where
  settings : Settings
  schema : Schema
  deriving DecidableEq, Repr

namespace Config

def empty : Config := ⟨.default, .empty⟩

def indexer (c : Config) : Indexer := ⟨c.settings.keepPunctuation⟩

def catalog (c : Config) : Catalog := .ofSchema c.schema

/-! ## Shapes -/

def text? : Toml → Option String
  | .string s => some s
  | _ => none

def boolean? : Toml → Option Bool
  | .boolean b => some b
  | _ => none

def texts? : Toml → Option (List String)
  | .array items => items.mapM text?
  | _ => none

/-- A name, or a list of names. -/
def oneOrMore? : Toml → Option (List String)
  | .string s => some [s]
  | v => texts? v

/-- The entries of a table with these keys; what is under other keys only has to be readable. -/
def fixedKeys? (keys : List String) : Toml → Option (List (String × Toml))
  | .table es => if es.all fun (k, v) => keys.contains k || v.isReadable then some es else none
  | .array items => some (keys.zip items)
  | .date => some []
  | _ => none

/-- A value that may be missing. -/
def optional? {α : Type} (read : Toml → Option α) : Option Toml → Option (Option α)
  | none => some none
  | some v => (read v).map some

def withDefault? {α : Type} (default : α) (read : Toml → Option α) : Option Toml → Option α
  | none => some default
  | some v => read v

/-! ## Parts of the layout -/

def settings? (v : Toml) : Option Settings := do
  let es ← fixedKeys? ["index_field", "keep_punctuation"] v
  let indexField ← withDefault? Settings.default.indexField text? (es.lookup "index_field")
  let keepPunctuation ←
    withDefault? Settings.default.keepPunctuation boolean? (es.lookup "keep_punctuation")
  some { indexField, keepPunctuation }

def isEmptyContainer : Toml → Bool
  | .array [] | .table [] => true
  | _ => false

/-- A name, or the name as the one key of a table, over an empty table or array. -/
def cardinality? : Toml → Option Cardinality
  | .string "one" => some .one
  | .string "many" => some .many
  | .table [(k, v)] => if isEmptyContainer v then cardinality? (.string k) else none
  | _ => none

def relation? (v : Toml) : Option Relation := do
  let es ← fixedKeys? ["type", "cardinality"] v
  let target ← (es.lookup "type").bind text?
  let cardinality ← withDefault? Cardinality.one cardinality? (es.lookup "cardinality")
  some { target, cardinality }

def declarationKeys : List String :=
  ["field", "alias", "only", "except", "skip_prefix", "keep_punctuation"]

/-- In an array, all of the values have to be there. -/
def isShortArray : Toml → Bool
  | .array items => items.length < declarationKeys.length
  | _ => false

def declaration? (v : Toml) : Option Declaration := do
  let es ← fixedKeys? declarationKeys v
  if isShortArray v then none
  else
    let field ← (es.lookup "field").bind text?
    let aliasName ← optional? text? (es.lookup "alias")
    let only ← withDefault? [] oneOrMore? (es.lookup "only")
    let except ← withDefault? [] oneOrMore? (es.lookup "except")
    let skipPart ← optional? boolean? (es.lookup "skip_prefix")
    let keepPunctuation ← optional? boolean? (es.lookup "keep_punctuation")
    some ⟨field, { aliasName, only, except, skipPart, keepPunctuation }⟩

def entriesOf? {α : Type} (read : Toml → Option α) : Toml → Option (List (String × α))
  | .table es => es.mapM fun (k, v) => (read v).map (k, ·)
  | _ => none

def itemsOf? {α : Type} (read : Toml → Option α) : Toml → Option (List α)
  | .array items => items.mapM read
  | _ => none

def recordType? (v : Toml) : Option RecordType := do
  let es ← fixedKeys? ["fields", "relations", "search"] v
  let fields ← withDefault? [] texts? (es.lookup "fields")
  let relations ← withDefault? [] (entriesOf? relation?) (es.lookup "relations")
  let declarations ← withDefault? [] (itemsOf? declaration?) (es.lookup "search")
  some (.ofParts fields relations declarations)

def ofEntries? (es : List (String × Toml)) : Option Config := do
  let es ← fixedKeys? ["settings", "types"] (.table es)
  let settings ← withDefault? .default settings? (es.lookup "settings")
  let types ← withDefault? [] (entriesOf? recordType?) (es.lookup "types")
  some ⟨settings, types.foldl (fun s (name, t) => s.insert name t) .empty⟩

/-- The configuration that a text holds. -/
def read? (text : String) : Option Config := (Toml.read? text).bind ofEntries?

end Config

end RecordSearch
