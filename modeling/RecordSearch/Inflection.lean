import RecordSearch.Text.Lowercase

/-!
Singular and plural of English field names. A name is a sequence of segments joined by underscores,
and the last one carries the number. The first rule of a list that applies to the last segment, in
lower case, says how many characters to drop from its end and what to add instead.

`normalize` takes the plural first, so that names given in either number meet in one singular.
-/

namespace RecordSearch.Inflection

open RecordSearch.Text

/-! ## Rules -/

/-- What a rule asks of a segment. -/
inductive Shape where
  /-- It is one of these words. -/
  | word (ws : List String)
  /-- It ends in one of these. -/
  | ending (suffixes : List String)
  /-- It ends in this, after a consonant or after `qu`. -/
  | afterConsonant (suffix : String)
  deriving DecidableEq, Repr

structure Rule where
  shape : Shape
  drop : Nat
  add : String
  deriving DecidableEq, Repr

def isVowel (c : Char) : Bool := "aeiouy".toList.contains c

/-- What is left of a segment before its ending. -/
def stem? (suffix cs : List Char) : Option (List Char) :=
  if suffix.isSuffixOf cs then some (cs.take (cs.length - suffix.length)) else none

def endsInConsonant (cs : List Char) : Bool :=
  match cs.getLast? with
  | none => false
  | some c => !isVowel c || ['q', 'u'].isSuffixOf cs

def Shape.matches (cs : List Char) : Shape → Bool
  | word ws => ws.any (·.toList == cs)
  | ending suffixes => suffixes.any (·.toList.isSuffixOf cs)
  | afterConsonant suffix => ((stem? suffix.toList cs).map endsInConsonant).getD false

/-! ## The two rule lists -/

/-- Words with one form for both numbers. -/
def uncountable : List String :=
  ["data", "equipment", "feedback", "fish", "information", "jeans", "metadata", "money", "news",
   "police", "rice", "series", "sheep", "species"]

/-- Words with a plural of their own: singular, plural. -/
def irregular : List (String × String) :=
  [("child", "children"), ("foot", "feet"), ("goose", "geese"), ("man", "men"), ("move", "moves"),
   ("ox", "oxen"), ("person", "people"), ("sex", "sexes"), ("tooth", "teeth"), ("woman", "women"),
   ("zombie", "zombies")]

def keep (shape : Shape) : Rule := ⟨shape, 0, ""⟩

/-- The word `a` becomes `b`, and `b` stays. -/
def exchange (a b : String) : List Rule := [⟨.word [a], a.length, b⟩, keep (.word [b])]

def pluralRules : List Rule :=
  keep (.word uncountable) :: irregular.flatMap (fun (s, p) => exchange s p) ++
  [⟨.word ["mouse", "louse"], 4, "ice"⟩,
   ⟨.ending ["quiz"], 0, "zes"⟩,
   ⟨.ending ["matrix"], 1, "ces"⟩,
   ⟨.ending ["vertex", "index"], 2, "ices"⟩,
   ⟨.ending ["x", "ch", "ss", "sh"], 0, "es"⟩,
   ⟨.afterConsonant "y", 1, "ies"⟩,
   ⟨.ending ["knife", "wife"], 2, "ves"⟩,
   ⟨.word ["life"], 2, "ves"⟩,
   ⟨.ending ["lf", "rf"], 1, "ves"⟩,
   ⟨.ending ["sis"], 2, "es"⟩,
   ⟨.ending ["buffalo", "echo", "hero", "potato", "tomato"], 0, "es"⟩,
   ⟨.ending ["bus", "alias", "status"], 0, "es"⟩,
   ⟨.ending ["octopus", "virus"], 2, "i"⟩,
   ⟨.ending ["axis", "testis"], 2, "es"⟩,
   keep (.ending ["s"]),
   ⟨.ending [""], 0, "s"⟩]

def singularRules : List Rule :=
  keep (.word uncountable) :: irregular.flatMap (fun (s, p) => exchange p s) ++
  [keep (.ending ["ss"]),
   ⟨.ending ["quizzes"], 3, ""⟩,
   ⟨.ending ["matrices"], 3, "x"⟩,
   ⟨.ending ["vertices", "indices"], 4, "ex"⟩,
   ⟨.ending ["octopi", "viri"], 1, "us"⟩,
   ⟨.ending ["aliases", "statuses", "buses"], 2, ""⟩,
   keep (.ending ["octopus", "virus", "alias", "status", "bus"]),
   ⟨.word ["mice", "lice"], 3, "ouse"⟩,
   ⟨.ending ["analyses", "crises", "diagnoses", "parentheses", "prognoses", "synopses", "testes",
      "theses"], 2, "is"⟩,
   keep (.ending ["sis"]),
   ⟨.ending ["buffaloes", "echoes", "heroes", "potatoes", "tomatoes"], 2, ""⟩,
   ⟨.ending ["xes", "ches", "sses", "shes"], 2, ""⟩,
   ⟨.ending ["movies"], 1, ""⟩,
   ⟨.afterConsonant "ies", 3, "y"⟩,
   ⟨.ending ["knives", "wives"], 3, "fe"⟩,
   ⟨.word ["lives"], 3, "fe"⟩,
   ⟨.ending ["lves", "rves"], 3, "f"⟩,
   keep (.ending ["us"]),
   ⟨.ending ["s"], 1, ""⟩]

/-! ## Inflection -/

/-- A name up to and including its last underscore, and the segment after it. -/
def splitSegment : List Char → List Char × List Char
  | [] => ([], [])
  | c :: cs =>
    let (head, segment) := splitSegment cs
    if head.isEmpty && c ≠ '_' then ([], c :: segment) else (c :: head, segment)

theorem splitSegment_append (cs : List Char) :
    (splitSegment cs).1 ++ (splitSegment cs).2 = cs := by
  induction cs with
  | nil => rfl
  | cons c cs ih =>
    by_cases h : (splitSegment cs).1.isEmpty && c ≠ '_'
    · have hnil : (splitSegment cs).1 = [] := by
        simp only [Bool.and_eq_true, List.isEmpty_iff] at h
        exact h.1
      rw [hnil, List.nil_append] at ih
      simp only [splitSegment, h, ↓reduceIte, List.nil_append, ih]
    · simp only [splitSegment, h, Bool.false_eq_true, ↓reduceIte, List.cons_append, ih]

def firstRule (rules : List Rule) (segment : List Char) : Rule :=
  (rules.find? (·.shape.matches segment)).getD (keep (.ending [""]))

def inflectSegment (rules : List Rule) (segment : List Char) : List Char :=
  let r := firstRule rules (segment.map lowerAscii)
  segment.take (segment.length - r.drop) ++ r.add.toList

def inflectChars (rules : List Rule) (cs : List Char) : List Char :=
  let (head, segment) := splitSegment cs
  if segment.isEmpty then cs else head ++ inflectSegment rules segment

def inflect (rules : List Rule) (name : String) : String :=
  String.ofList (inflectChars rules name.toList)

def pluralize (name : String) : String := inflect pluralRules name

def singularize (name : String) : String := inflect singularRules name

/-- The singular of a name, whichever number it is given in. -/
def normalize (name : String) : String := singularize (pluralize name)

example : pluralize "lead_Actor" = "lead_Actors" := by decide +kernel
example : singularize "key_people" = "key_person" := by decide +kernel
example : normalize "soliloquies" = "soliloquy" := by decide +kernel
example : pluralize "tag_" = "tag_" := by decide +kernel

end RecordSearch.Inflection
