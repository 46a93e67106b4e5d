import RecordSearch.Json.Number

/-!
The value of a searchable field, as it is tokenized: text, in lists and under keys. Nothing tells a
number or a truth value from its text any more.
-/

namespace RecordSearch

inductive FieldValue where
  | absent
  | scalar (text : String)
  | list (items : List FieldValue)
  | map (entries : List (String × FieldValue))
  deriving Repr, Inhabited

namespace FieldValue

/-! ## From JSON -/

mutual

def ofJson : Json → FieldValue
  | .null => absent
  | .bool true => scalar "true"
  | .bool false => scalar "false"
  | .number n => scalar n.text
  | .string s => scalar s
  | .array xs => list (ofItems xs)
  | .object es => map (ofEntries es)

def ofItems : List Json → List FieldValue
  | [] => []
  | x :: xs => ofJson x :: ofItems xs

def ofEntries : List (String × Json) → List (String × FieldValue)
  | [] => []
  | (k, v) :: es => (k, ofJson v) :: ofEntries es

end

theorem ofItems_eq_map (xs : List Json) : ofItems xs = xs.map ofJson := by
  induction xs with
  | nil => rfl
  | cons x xs ih => rw [ofItems, ih, List.map_cons]

/-! ## Lists -/

def isAbsent : FieldValue → Bool
  | absent => true
  | _ => false

/-- The elements of a list, and any other value as the one element. -/
def elements : FieldValue → List FieldValue
  | list items => items
  | v => [v]

/-- One list of several values, the lists among them spliced in. -/
def flattened (vs : List FieldValue) : FieldValue := list (vs.flatMap elements)

/-! ## Segments -/

mutual

/-- The texts of a value in order, each with the outermost key above it. `key` is a key that is
already above the value. -/
def segmentsUnder (key : Option String) : FieldValue → List (Option String × String)
  | absent => []
  | scalar text => [(key, text)]
  | list items => itemSegments key items
  | map entries => entrySegments key entries

def itemSegments (key : Option String) : List FieldValue → List (Option String × String)
  | [] => []
  | v :: vs => segmentsUnder key v ++ itemSegments key vs

def entrySegments (key : Option String) : List (String × FieldValue) →
    List (Option String × String)
  | [] => []
  | (k, v) :: es => segmentsUnder (key.or (some k)) v ++ entrySegments key es

end

def segments (v : FieldValue) : List (Option String × String) := segmentsUnder none v

theorem itemSegments_append (key : Option String) (vs ws : List FieldValue) :
    itemSegments key (vs ++ ws) = itemSegments key vs ++ itemSegments key ws := by
  induction vs with
  | nil => rfl
  | cons v vs ih => simp [itemSegments, ih]

theorem segments_list (vs : List FieldValue) : segments (list vs) = vs.flatMap segments := by
  have h (vs : List FieldValue) : itemSegments none vs = vs.flatMap segments := by
    induction vs with
    | nil => rfl
    | cons v vs ih => simp [itemSegments, ih, segments]
  rw [segments, segmentsUnder, h]

theorem flatMap_segments_elements (v : FieldValue) : v.elements.flatMap segments = segments v := by
  cases v with
  | list items => rw [elements, segments_list]
  | _ => simp [elements]

/-- Splicing leaves the segments as they are. -/
theorem segments_flattened (vs : List FieldValue) :
    segments (flattened vs) = vs.flatMap segments := by
  rw [flattened, segments_list, List.flatMap_assoc]
  simp only [flatMap_segments_elements]

def segmentText : Option String × String → String
  | (some key, text) => key ++ ":" ++ text
  | (none, text) => text

/-- The segments side by side. -/
def display (v : FieldValue) : String := " ".intercalate (v.segments.map segmentText)

end FieldValue

end RecordSearch
