import RecordSearch.Index.Words
import RecordSearch.Registry.Basic
import RecordSearch.Text.Substring

/-!
The tokens of a record: `name:word` for every word of every searchable field, and `name:key:word`
for words found under a map key, field by field in the order of the registry.
-/

namespace RecordSearch.Index

open RecordSearch.Text

structure Indexer where
  /-- Whether fields that do not say so themselves keep their punctuation. -/
  keepPunctuation : Bool
  deriving DecidableEq, Repr

/-- What stands before the word of a token. -/
def tokenField (name : String) : Option String → String
  | some key => name ++ ":" ++ normalizeKey key
  | none => name

/-- The tokens of one text found under `key`. -/
def segmentTokens (name : String) (keep : Bool) (segment : Option String × String) : List String :=
  (normalizeWords segment.2 keep).map fun word => tokenField name segment.1 ++ ":" ++ word

namespace Indexer

def tokensFor (ix : Indexer) (d : FieldDescriptor) (record : Json) : List String :=
  (d.valueIn record).segments.flatMap
    (segmentTokens d.name (d.keepsPunctuation ix.keepPunctuation))

def index (ix : Indexer) (record : Json) (r : FieldRegistry) : List String :=
  r.fields.flatMap (ix.tokensFor · record)

end Indexer

/-- What follows `name:` in the tokens that start so. -/
def fieldValues (tokens : List String) (name : String) : List String :=
  tokens.filterMap fun token =>
    match splitAtFirst ':' token.toList with
    | some (field, rest) => if String.ofList field = name then some (String.ofList rest) else none
    | none => none

theorem fieldValues_append (as bs : List String) (name : String) :
    fieldValues (as ++ bs) name = fieldValues as name ++ fieldValues bs name :=
  List.filterMap_append

end RecordSearch.Index
