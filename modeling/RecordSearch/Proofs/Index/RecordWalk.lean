import RecordSearch.Index.Tokens
import RecordSearch.Proofs.Registry.Resolution

/-!
The tokens of a record, found by walking the record itself: along the relations of a field from
record to related records, and down the value of the field to the scalars in it.

* `FieldValue.segments_ofJson`: the segments of a value are its scalars, each under the outermost
  key;
* `FieldValue.segments_along`: the relations are followed from record to record;
* `Index.tokens_eq_walkTokens`: the tokens of a field are those of the walk, and the tokens for
  several related values are those for one after the other.
-/

namespace RecordSearch

/-! ## The walk -/

/-- A scalar in a value. -/
structure Leaf where
  /-- The keys above the scalar, the outermost first. -/
  keys : List String
  text : String
  deriving DecidableEq, Repr

def Leaf.under (key : String) (leaf : Leaf) : Leaf := { leaf with keys := key :: leaf.keys }

namespace Json

mutual

/-- The scalars in a value, in the order of the document. -/
def leaves : Json → List Leaf
  | .null => []
  | .bool b => [⟨[], toString b⟩]
  | .number n => [⟨[], n.text⟩]
  | .string s => [⟨[], s⟩]
  | .array xs => itemLeaves xs
  | .object es => entryLeaves es

def itemLeaves : List Json → List Leaf
  | [] => []
  | x :: xs => leaves x ++ itemLeaves xs

def entryLeaves : List (String × Json) → List Leaf
  | [] => []
  | (k, v) :: es => (leaves v).map (Leaf.under k) ++ entryLeaves es

end

def isObject : Json → Bool
  | .object _ => true
  | _ => false

theorem get?_of_not_isObject {record : Json} (h : record.isObject = false) (name : String) :
    record.get? name = none := by
  cases record with
  | object es => cases h
  | _ => rfl

def isArray : Json → Bool
  | .array _ => true
  | _ => false

/-- The records that a value under a relation stands for: the objects of an array, and any other
value itself. -/
def records : Json → List Json
  | .null => []
  | .array items => items.filter isObject
  | v => [v]

def related (relation : String) (record : Json) : List Json :=
  match record.get? relation with
  | none => []
  | some v => v.records

def leavesAt (field : String) (record : Json) : List Leaf :=
  match record.get? field with
  | none => []
  | some v => v.leaves

/-- The leaves of a field of the records that the relations lead to. -/
def walk : List String → String → Json → List Leaf
  | [], field, record => record.leavesAt field
  | r :: rs, field, record => (record.related r).flatMap (walk rs field)

/-- A value inside of records that embed each other: each frame is the name of the relation and the
entries of the record that it belongs to. -/
def plug (v : Json) : List (String × List (String × Json)) → Json
  | [] => v
  | (relation, es) :: frames => .object (put relation (plug v frames) es)

end Json

namespace Index

def leafTokens (name : String) (keep : Bool) (leaf : Leaf) : List String :=
  (normalizeWords leaf.text keep).map fun word =>
    match leaf.keys with
    | [] => name ++ ":" ++ word
    | key :: _ => name ++ ":" ++ normalizeKey key ++ ":" ++ word

def Indexer.walkTokens (ix : Indexer) (d : FieldDescriptor) (record : Json) : List String :=
  (record.walk d.relations d.field).flatMap
    (leafTokens d.name (d.options.keepPunctuation.getD ix.keepPunctuation))

end Index

/-! ## Values -/

theorem flatMap_filter_of_eq_nil {α β : Type} {p : α → Bool} {f : α → List β}
    (h : ∀ a, p a = false → f a = []) (as : List α) : (as.filter p).flatMap f = as.flatMap f := by
  induction as with
  | nil => rfl
  | cons a as ih =>
    cases hp : p a with
    | true => rw [List.filter_cons_of_pos hp, List.flatMap_cons, List.flatMap_cons, ih]
    | false =>
      rw [List.filter_cons_of_neg (by simp [hp]), List.flatMap_cons, h a hp, ih, List.nil_append]

/-- A leaf as it is found when `key` is above the value already. -/
def Leaf.segment (key : Option String) (leaf : Leaf) : Option String × String :=
  (key.or leaf.keys.head?, leaf.text)

theorem Leaf.segment_under (key : Option String) (k : String) (leaf : Leaf) :
    (leaf.under k).segment key = leaf.segment (key.or (some k)) := by
  cases key <;> rfl

namespace FieldValue

mutual

theorem segmentsUnder_ofJson (key : Option String) :
    ∀ v : Json, segmentsUnder key (ofJson v) = v.leaves.map (Leaf.segment key)
  | .null => by simp [ofJson, segmentsUnder, Json.leaves]
  | .bool true | .bool false | .number _ | .string _ => by
    simp [ofJson, segmentsUnder, Json.leaves, Leaf.segment, toString]
  | .array xs => by
    rw [ofJson, segmentsUnder, Json.leaves]
    exact itemSegments_ofItems key xs
  | .object es => by
    rw [ofJson, segmentsUnder, Json.leaves]
    exact entrySegments_ofEntries key es

theorem itemSegments_ofItems (key : Option String) :
    ∀ xs : List Json, itemSegments key (ofItems xs) = (Json.itemLeaves xs).map (Leaf.segment key)
  | [] => by simp [ofItems, itemSegments, Json.itemLeaves]
  | x :: xs => by
    rw [ofItems, itemSegments, Json.itemLeaves, List.map_append, segmentsUnder_ofJson key x,
      itemSegments_ofItems key xs]

theorem entrySegments_ofEntries (key : Option String) :
    ∀ es : List (String × Json),
      entrySegments key (ofEntries es) = (Json.entryLeaves es).map (Leaf.segment key)
  | [] => by simp [ofEntries, entrySegments, Json.entryLeaves]
  | (k, v) :: es => by
    -- Below the entry `k` is above every leaf, unless `key` is above it already.
    have hunder : Leaf.segment key ∘ Leaf.under k = Leaf.segment (key.or (some k)) :=
      funext (Leaf.segment_under key k)
    rw [ofEntries, entrySegments, Json.entryLeaves, List.map_append, List.map_map, hunder,
      segmentsUnder_ofJson (key.or (some k)) v, entrySegments_ofEntries key es]

end

theorem segments_ofJson (v : Json) : (ofJson v).segments = v.leaves.map (Leaf.segment none) :=
  segmentsUnder_ofJson none v

theorem segments_atField (field : String) (record : Json) :
    (atField field record).segments = (record.leavesAt field).map (Leaf.segment none) := by
  rw [atField, Json.leavesAt]
  cases record.get? field with
  | none => rfl
  | some v => exact segments_ofJson v

/-! ## Relations -/

/-- Nothing is found in what is not an object. -/
theorem segments_along_of_not_isObject {record : Json} (h : record.isObject = false)
    (rs : List String) (field : String) : (along rs field record).segments = [] := by
  cases rs with
  | nil =>
    rw [along, atField, Json.get?_of_not_isObject h]
    rfl
  | cons r rs =>
    rw [along, Json.get?_of_not_isObject h]
    rfl

theorem segments_along (rs : List String) (field : String) (record : Json) :
    (along rs field record).segments = (record.walk rs field).map (Leaf.segment none) := by
  induction rs generalizing record with
  | nil => exact segments_atField field record
  | cons r rs ih =>
    rw [along, Json.walk, Json.related, List.map_flatMap]
    simp only [← ih]
    cases record.get? r with
    | none => rfl
    | some v =>
      cases v with
      | null => rfl
      | array items =>
        -- What is not an object among the items has a value too, but one without segments.
        dsimp only [Json.records]
        rw [segments_flattened, List.flatMap_map, flatMap_filter_of_eq_nil]
        intro item hitem
        exact segments_along_of_not_isObject hitem rs field
      | _ => simp [Json.records]

end FieldValue

/-! ## Related values -/

namespace Json

theorem walk_of_not_isObject {v : Json} (h : v.isObject = false) (rs : List String)
    (field : String) : v.walk rs field = [] := by
  have hsegments := FieldValue.segments_along_of_not_isObject h rs field
  rw [FieldValue.segments_along] at hsegments
  exact List.map_eq_nil_iff.mp hsegments

theorem flatMap_walk_records {v : Json} (h : v.isArray = false) (rs : List String)
    (field : String) : v.records.flatMap (walk rs field) = v.walk rs field := by
  cases v with
  | null => exact (walk_of_not_isObject rfl rs field).symm
  | array items => cases h
  | _ => exact List.flatMap_singleton _ _

theorem flatMap_walk_records_array (items : List Json) (rs : List String) (field : String) :
    (Json.array items).records.flatMap (walk rs field) = items.flatMap (walk rs field) :=
  flatMap_filter_of_eq_nil (fun _ h => walk_of_not_isObject h rs field) items

theorem related_put (relation : String) (v : Json) (es : List (String × Json)) :
    (Json.object (put relation v es)).related relation = v.records := by
  rw [related, get?, lookup_put_self]

/-- The walk along the relations of the frames comes to the records of the value inside. -/
theorem walk_plug (v : Json) {frames : List (String × List (String × Json))} (h : frames ≠ [])
    (rs : List String) (field : String) :
    (plug v frames).walk (frames.map Prod.fst ++ rs) field =
      v.records.flatMap (walk rs field) := by
  induction frames with
  | nil => exact absurd rfl h
  | cons frame frames ih =>
    rw [plug, List.map_cons, List.cons_append, walk, related_put]
    cases frames with
    | nil => rfl
    | cons inner frames =>
      rw [← ih (List.cons_ne_nil _ _)]
      exact List.flatMap_singleton _ _

theorem walk_plug_array {items : List Json} (hitems : ∀ v ∈ items, v.isArray = false)
    {frames : List (String × List (String × Json))} (h : frames ≠ []) (rs : List String)
    (field : String) :
    (plug (.array items) frames).walk (frames.map Prod.fst ++ rs) field =
      items.flatMap fun v => (plug v frames).walk (frames.map Prod.fst ++ rs) field := by
  rw [walk_plug _ h, flatMap_walk_records_array]
  refine List.flatMap_congr fun v hv => ?_
  rw [walk_plug v h, flatMap_walk_records (hitems v hv)]

end Json

/-! ## Cardinalities -/

def Relation.withCardinality (c : Cardinality) (r : Relation) : Relation := ⟨r.target, c⟩

def RecordType.withCardinalities (f : String → Cardinality) (t : RecordType) : RecordType :=
  { t with relations := t.relations.map fun e => (e.1, e.2.withCardinality (f e.1)) }

/-- The schema with other cardinalities, for each type and relation. -/
def Schema.withCardinalities (f : String → String → Cardinality) (s : Schema) : Schema :=
  ⟨s.types.map fun e => (e.1, e.2.withCardinalities (f e.1))⟩

theorem lookup_map_entries {α β : Type} (g : String → α → β) (es : List (String × α))
    (name : String) :
    (es.map fun e => (e.1, g e.1 e.2)).lookup name = (es.lookup name).map (g name) := by
  induction es with
  | nil => rfl
  | cons e es ih =>
    rw [List.map_cons, List.lookup_cons, List.lookup_cons, ih]
    by_cases h : name = e.1
    · simp [h]
    · have hb : (name == e.1) = false := by simpa using h
      simp [hb]

theorem Schema.get?_withCardinalities (f : String → String → Cardinality) (s : Schema)
    (name : String) :
    (s.withCardinalities f).get? name = (s.get? name).map (·.withCardinalities (f name)) :=
  lookup_map_entries (fun n (t : RecordType) => t.withCardinalities (f n)) s.types name

theorem RecordType.relation?_withCardinalities (f : String → Cardinality) (t : RecordType)
    (name : String) :
    (t.withCardinalities f).relation? name =
      (t.relation? name).map (·.withCardinality (f name)) :=
  lookup_map_entries (fun n (r : Relation) => r.withCardinality (f n)) t.relations name

theorem Registers.withCardinalities {s : Schema} {owner : String} {t : RecordType}
    {ds : List Declaration} {r r' : FieldRegistry} (h : Registers s owner t ds r r')
    (f : String → String → Cardinality) :
    Registers (s.withCardinalities f) owner (t.withCardinalities (f owner)) ds r r' := by
  induction h with
  | nil => exact .nil
  | field hrel hfield _ ih =>
    refine .field ?_ hfield ih
    rw [RecordType.relation?_withCardinalities, hrel]
    rfl
  | @relation owner t d ds r r' relation u inner hrel hget _ _ ihinner ih =>
    have hrel' : (t.withCardinalities (f owner)).relation? d.field =
        some (relation.withCardinality (f owner d.field)) := by
      rw [RecordType.relation?_withCardinalities, hrel]
      rfl
    have hget' : (s.withCardinalities f).get? relation.target =
        some (u.withCardinalities (f relation.target)) := by
      rw [Schema.get?_withCardinalities, hget]
      rfl
    exact .relation hrel' hget' ihinner ih

theorem registry_withCardinalities {s : Schema} {name : String} {r : FieldRegistry}
    (h : s.registry name = .ok r) (f : String → String → Cardinality) :
    (s.withCardinalities f).registry name = .ok r := by
  obtain ⟨t, ht, hr⟩ := registry_eq_ok_iff.mp h
  refine registry_eq_ok_iff.mpr ⟨t.withCardinalities (f name), ?_, hr.withCardinalities f⟩
  rw [Schema.get?_withCardinalities, ht]
  rfl

/-! ## Tokens -/

namespace Index

theorem segmentTokens_segment (name : String) (keep : Bool) (leaf : Leaf) :
    segmentTokens name keep (leaf.segment none) = leafTokens name keep leaf := by
  obtain ⟨keys, text⟩ := leaf
  cases keys <;> rfl

theorem Indexer.tokensFor_eq_walkTokens (ix : Indexer) (d : FieldDescriptor) (record : Json) :
    ix.tokensFor d record = ix.walkTokens d record := by
  rw [tokensFor, walkTokens, FieldDescriptor.valueIn, FieldValue.segments_along, List.flatMap_map]
  refine List.flatMap_congr fun leaf _ => ?_
  exact segmentTokens_segment _ _ leaf

/-- The tokens of a field, and of all fields of a registry, are those of the walk. An array of
related values gives what they give alone, one after the other; registries do not tell whether one
value was declared or many. -/
theorem tokens_eq_walkTokens (ix : Indexer) :
    (∀ d record, ix.tokensFor d record = ix.walkTokens d record) ∧
    (∀ r record, ix.index record r = r.fields.flatMap (ix.walkTokens · record)) ∧
    (∀ (d : FieldDescriptor) frames rs vs, frames ≠ [] →
      d.relations = frames.map Prod.fst ++ rs → (∀ v ∈ vs, v.isArray = false) →
      ix.tokensFor d (Json.plug (.array vs) frames) =
        vs.flatMap fun v => ix.tokensFor d (Json.plug v frames)) ∧
    ∀ (s : Schema) t r f, s.registry t = .ok r → (s.withCardinalities f).registry t = .ok r := by
  refine ⟨ix.tokensFor_eq_walkTokens, ?index, ?values, fun s t r f h =>
    registry_withCardinalities h f⟩
  case index =>
    intro r record
    exact List.flatMap_congr fun d _ => ix.tokensFor_eq_walkTokens d record
  case values =>
    intro d frames rs vs hframes hrelations hvs
    simp only [ix.tokensFor_eq_walkTokens, Indexer.walkTokens, hrelations]
    rw [Json.walk_plug_array hvs hframes, List.flatMap_assoc]

/-- The name of the agents of an actor. -/
def agentName : FieldDescriptor where
  owner := "movie"
  name := "agent"
  lead := none
  baseName := "name"
  relations := ["actors", "agents"]
  field := "name"
  options := .empty

theorem tokensFor_agentName :
    (Indexer.mk false).tokensFor agentName
        (Json.plug (.array [.object [("name", .string "Al S.")], .string "Bo", .null,
            .object [("name", .object [("First Name", .array [.string "Cy", .bool true])])]])
          [("actors", [("name", .string "Di")]), ("agents", [])]) =
      ["agent:al", "agent:s", "agent:first_name:cy", "agent:first_name:true"] := by
  rw [(tokens_eq_walkTokens ⟨false⟩).2.2.1 agentName _ [] _ (List.cons_ne_nil _ _) rfl (by decide)]
  decide +kernel

end Index

end RecordSearch
