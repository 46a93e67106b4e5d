import RecordSearch.Query.Regex
import RecordSearch.Text.Substring
import RecordSearch.Json.Value

/-!
Patterns: a compiled query is a list of them. A token `field:rest` satisfies a pattern if the
pattern accepts the field and its word occurs in the rest; a list of tokens satisfies a pattern if
one of them does, and a list of patterns if it satisfies each.
-/

namespace RecordSearch.Query

open RecordSearch.Text

/-- The fields a pattern looks at. -/
inductive Scope where
  | exact (name : String)
  | any
  deriving DecidableEq, Repr

structure Pattern where
  scope : Scope
  word : String
  ignoreCase : Bool
  deriving DecidableEq, Repr

namespace Scope

def accepts (field : String) : Scope → Bool
  | exact name => name == field
  | any => true

def name? : Scope → Option String
  | exact name => some name
  | any => none

def ofField : Option String → Scope
  | some name => exact name
  | none => any

end Scope

namespace Pattern

/-- Compiled words are in lower case and ignore case. -/
def ofWord (field : Option String) (word : String) : Pattern :=
  ⟨Scope.ofField field, lower word, true⟩

/-! ## Matching -/

def wordOccursIn (p : Pattern) (rest : List Char) : Bool :=
  if p.ignoreCase then occursIn (lowerChars p.word.toList) (lowerChars rest)
  else occursIn p.word.toList rest

/-- The field of a token is the text before its first colon; a token without one has none. -/
def matchesToken (p : Pattern) (token : String) : Bool :=
  match splitAtFirst ':' token.toList with
  | none => false
  | some (field, rest) => p.scope.accepts (String.ofList field) && p.wordOccursIn rest

def matchesAny (tokens : List String) (p : Pattern) : Bool := tokens.any p.matchesToken

/-- No patterns at all match everything. -/
def matchesAll (tokens : List String) (ps : List Pattern) : Bool := ps.all (matchesAny tokens)

theorem matchesAll_append (tokens : List String) (ps qs : List Pattern) :
    matchesAll tokens (ps ++ qs) = (matchesAll tokens ps && matchesAll tokens qs) := by
  simp [matchesAll]

/-! ## Other forms -/

/-- The word between stars, under its field or a star. -/
def display (p : Pattern) : String :=
  match p.scope with
  | .exact name => name ++ ":*" ++ p.word ++ "*"
  | .any => "*:*" ++ p.word ++ "*"

def scopePieces : Scope → List Piece
  | .exact name => name.toList.map .literal
  | .any => [.noColon]

/-- The expression that finds a match in the tokens that satisfy the pattern. -/
def regex (p : Pattern) : Regex :=
  ⟨p.ignoreCase, scopePieces p.scope ++ .literal ':' :: .anything :: p.word.toList.map .literal⟩

/-! ## As JSON -/

def scopeToJson : Scope → Json
  | .exact name => .object [("exact", .string name)]
  | .any => .string "any"

def toJson (p : Pattern) : Json :=
  .object [("field", scopeToJson p.scope), ("word", .string p.word),
    ("case_insensitive", .bool p.ignoreCase)]

def scopeOfJson? : Json → Option Scope
  | .string "any" => some .any
  | .object [("any", .null)] => some .any
  | .object [("exact", .string name)] => some (.exact name)
  | _ => none

def wordOfJson? : Json → Option String
  | .string s => some s
  | _ => none

/-- Case is ignored unless the flag says otherwise. -/
def flagOfJson? : Option Json → Option Bool
  | none => some true
  | some (.bool b) => some b
  | some _ => none

def ofParts? (scope word : Option Json) (flag : Option Json) : Option Pattern := do
  some ⟨← scopeOfJson? (← scope), ← wordOfJson? (← word), ← flagOfJson? flag⟩

/-- Unknown keys are ignored. The parts may also stand in a list, in their order. -/
def ofJson? : Json → Option Pattern
  | .object es =>
    ofParts? (es.lookup "field") (es.lookup "word") (es.lookup "case_insensitive")
  | .array [scope, word] => ofParts? (some scope) (some word) none
  | .array [scope, word, flag] => ofParts? (some scope) (some word) (some flag)
  | _ => none

example : (regex (ofWord (some "a.b") "C+")).text = "(?i)^a\\.b:.*c\\+" := by decide +kernel
example : matchesToken (ofWord none "US") "title:trusty" = true := by decide +kernel

end Pattern

end RecordSearch.Query
