import RecordSearch.Query.Scan
import RecordSearch.Query.Pattern

/-!
Compiling a query: one pattern for each word of each term, in order. A blank query has no terms and
so compiles to no patterns, which match everything.
-/

namespace RecordSearch.Query

def termPatterns (t : Term) : List Pattern := t.words.map (Pattern.ofWord t.field)

def compile (lookup : FieldLookup) (query : String) : List Pattern :=
  (scan lookup query).flatMap termPatterns

example : (compile (lookupIn ["title"]) "title:\"b, C\" -- d").map Pattern.display =
    ["title:*b*", "title:*c*", "*:*d*"] := by decide +kernel

end RecordSearch.Query
