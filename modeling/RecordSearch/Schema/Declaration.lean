import RecordSearch.Json.Value

/-!
Search declarations: the fields and relations of a record type that are searched, with the options
of each. Flags are optional so that options merged along relations can tell a flag that is not set
from one that is set to false.
-/

namespace RecordSearch

structure SearchOptions where
  /-- Another name for the field; on a relation, for the part it contributes to names. -/
  aliasName : Option String
  /-- On a relation: the only names of the related type that are exposed, unless empty. -/
  only : List String
  /-- On a relation: names of the related type that are not exposed. -/
  except : List String
  /-- On a relation: whether it contributes no part to names. -/
  skipPart : Option Bool
  /-- Whether words keep their punctuation. -/
  keepPunctuation : Option Bool
  deriving DecidableEq, Repr

structure Declaration where
  field : String
  options : SearchOptions
  deriving DecidableEq, Repr

namespace SearchOptions

def empty : SearchOptions := ⟨none, [], [], none, none⟩

/-- A relation with these options lets a name of the related type through. -/
def exposes (o : SearchOptions) (name : String) : Bool :=
  (o.only.isEmpty || o.only.contains name) && !o.except.contains name

def skipsPart (o : SearchOptions) : Bool := o.skipPart.getD false

/-- What `outer` sets wins. -/
def mergedOver (outer inner : SearchOptions) : SearchOptions where
  aliasName := outer.aliasName.or inner.aliasName
  only := if outer.only.isEmpty then inner.only else outer.only
  except := if outer.except.isEmpty then inner.except else outer.except
  skipPart := outer.skipPart.or inner.skipPart
  keepPunctuation := outer.keepPunctuation.or inner.keepPunctuation

theorem mergedOver_empty (o : SearchOptions) : o.mergedOver empty = o := by
  cases o with
  | mk aliasName only except skipPart keepPunctuation =>
    by_cases ho : only = [] <;> by_cases he : except = [] <;> simp [mergedOver, empty, ho, he]

theorem mergedOver_assoc (a b c : SearchOptions) :
    (a.mergedOver b).mergedOver c = a.mergedOver (b.mergedOver c) := by
  simp only [mergedOver, mk.injEq, Option.or_assoc, true_and, and_true]
  constructor
  · by_cases h : a.only.isEmpty <;> simp [h]
  · by_cases h : a.except.isEmpty <;> simp [h]

/-! ## From JSON -/

def textOfJson? : Json → Option String
  | .string s => some s
  | _ => none

def aliasOfJson? : Option Json → Option (Option String)
  | none | some .null => some none
  | some (.string s) => some (some s)
  | some _ => none

def namesOfJson? : Option Json → Option (List String)
  | none => some []
  | some (.array items) => items.mapM textOfJson?
  | some _ => none

def flagOfJson? : Option Json → Option (Option Bool)
  | none | some .null => some none
  | some (.bool b) => some (some b)
  | some _ => none

/-- Every option may be missing; unknown keys are ignored. -/
def ofEntries? (es : List (String × Json)) : Option SearchOptions := do
  let aliasName ← aliasOfJson? (es.lookup "alias")
  let only ← namesOfJson? (es.lookup "only")
  let except ← namesOfJson? (es.lookup "except")
  let skipPart ← flagOfJson? (es.lookup "skip_prefix")
  let keepPunctuation ← flagOfJson? (es.lookup "keep_punctuation")
  some { aliasName, only, except, skipPart, keepPunctuation }

def ofJson? : Json → Option SearchOptions
  | .object es => ofEntries? es
  | _ => none

end SearchOptions

def Declaration.ofJson? : Json → Option Declaration
  | .object es => do
    let field ← (es.lookup "field").bind SearchOptions.textOfJson?
    let options ← SearchOptions.ofEntries? es
    some ⟨field, options⟩
  | _ => none

end RecordSearch
