import RecordSearch.Proofs.Index.TokenChars
import RecordSearch.Proofs.Query.Expressions
import RecordSearch.Proofs.Query.Notation
import RecordSearch.Proofs.Query.Patterns

/-!
Records in a storage engine that is handed the written expressions of a query. In the tokens of a
record they find what the patterns of the query match, if the names of the fields allow it
(`FieldRegistry.Expressible`, `foundIn_iff_matchesToken`). Two names that differ in case are enough
for an expression to find more (`not_forall_foundIn_iff_matchesToken`).
-/

namespace RecordSearch

open RecordSearch.Text RecordSearch.Query RecordSearch.Index

/-! ## Names -/

/-- The part of a name that tokens under it are told by. -/
def fieldPart (name : String) : List Char := name.toList.takeWhile (· != ':')

/-- The part of a name that is taken for text in tokens under it. -/
def textPart (name : String) : List Char := name.toList.dropWhile (· != ':')

/-- What makes the expressions of a query agree with its patterns. -/
structure FieldRegistry.Expressible (r : FieldRegistry) : Prop where
  /-- An expression for any field wants a character of it. -/
  fieldPart_ne_nil : ∀ name ∈ r.names, fieldPart name ≠ []
  /-- The word is looked for in one line. -/
  newline_not_mem : ∀ name ∈ r.names, '\n' ∉ textPart name
  /-- An expression for one field takes its name in any case. -/
  eq_fieldPart : ∀ name ∈ r.names, ∀ other ∈ r.names,
    lowerChars name.toList = lowerChars (fieldPart other) → name.toList = fieldPart other

theorem parts_of_isKey {name : String} (h : IsKey name) :
    fieldPart name = name.toList ∧ textPart name = [] := by
  have hcolon : ∀ c ∈ name.toList, (c != ':') = true := fun c hc => by
    have hne : c ≠ ':' := fun heq => h.not_mem_colon (heq ▸ hc)
    simpa using hne
  exact ⟨List.takeWhile_eq_self_iff.mpr hcolon, List.dropWhile_eq_nil_iff.mpr hcolon⟩

/-- Names that can be typed, and differ in more than case. -/
theorem FieldRegistry.expressible_of_isKey {r : FieldRegistry}
    (hkeys : ∀ name ∈ r.names, IsKey name) (hnames : (r.names.map lower).Nodup) :
    r.Expressible where
  fieldPart_ne_nil name hname := by
    rw [(parts_of_isKey (hkeys name hname)).1]
    exact fun h => (hkeys name hname).1 (String.toList_eq_nil_iff.mp h)
  newline_not_mem name hname := by
    rw [(parts_of_isKey (hkeys name hname)).2]
    exact List.not_mem_nil
  eq_fieldPart name hname other hother h := by
    rw [(parts_of_isKey (hkeys other hother)).1] at h ⊢
    rw [List.inj_on_of_nodup_map hnames hname hother (by rw [lower, h, lower])]

/-! ## Tokens -/

theorem splitAtFirst_token_fieldPart (name rest : String) :
    ∃ after, splitAtFirst ':' (token name rest).toList = some (fieldPart name, after) ∧
      after ⊆ textPart name ++ ':' :: rest.toList := by
  have hname : name.toList = fieldPart name ++ textPart name :=
    List.takeWhile_append_dropWhile.symm
  have hcolon : ':' ∉ fieldPart name := fun h => by simpa using List.mem_takeWhile_imp h
  cases htext : textPart name with
  | nil =>
    refine ⟨rest.toList, splitAtFirst_eq_some_iff.mpr ⟨?_, hcolon⟩, List.subset_cons_self _ _⟩
    rw [toList_token, hname, htext, List.append_nil]
  | cons c text =>
    obtain rfl : c = ':' := by
      have hhead := List.head?_dropWhile_not (· != ':') name.toList
      rw [← textPart, htext] at hhead
      simpa using hhead
    refine ⟨text ++ ':' :: rest.toList, splitAtFirst_eq_some_iff.mpr ⟨?_, hcolon⟩,
      List.subset_cons_self _ _⟩
    rw [toList_token, hname, htext, List.append_assoc, List.cons_append]

/-- A name that is looked up by a text without a colon has no colon. -/
theorem FieldRegistry.colon_not_mem_of_lookup {r : FieldRegistry} {typed name : String}
    (h : r.lookup typed = some name) (htyped : ':' ∉ typed.toList) : ':' ∉ name.toList := by
  have hmark : isMark ':' = true := by decide
  have hlower : lowerChars name.toList = lowerChars typed.toList := by
    rw [← toList_lower, lower_of_lookup h, toList_lower]
  rwa [← mem_lowerChars_iff hmark, hlower, mem_lowerChars_iff hmark]

/-- In the tokens of a record, the written expressions of a query find what its patterns match. -/
theorem foundIn_iff_matchesToken {r : FieldRegistry} (hr : r.Expressible) {query : String}
    (hquery : IsAscii query.toList) {ix : Indexer} {record : Json}
    (htokens : ∀ t ∈ ix.index record r, IsAscii t.toList) :
    ∀ p ∈ compile r.lookup query, ∀ t ∈ ix.index record r,
      Regex.foundIn p.regex.text t = true ↔ p.matchesToken t = true := by
  intro p hp t ht
  obtain ⟨field, word, rfl, hword, hfield⟩ := exists_ofWord_of_mem_compile hp
  obtain ⟨d, hd, htoken⟩ := List.mem_flatMap.mp ht
  obtain ⟨segment, -, w, hw, rfl⟩ := mem_tokensFor_iff.mp htoken
  have hname : d.name ∈ r.names := List.mem_map.mpr ⟨d, hd, rfl⟩
  obtain ⟨after, hsplit, hafter⟩ :=
    splitAtFirst_token_fieldPart d.name (tokenRest (String.ofList w) segment.1)
  have hline : '\n' ∉ after := by
    intro hmem
    rcases List.mem_append.mp (hafter hmem) with h | h
    · exact hr.newline_not_mem _ hname h
    · rcases List.mem_cons.mp h with h | h
      · cases h
      · cases not_blank_tokenRest hw segment.1 h
  have hascii : IsAscii after := by
    intro c hc
    refine htokens _ ht c ?_
    rw [(splitAtFirst_eq_some_iff.mp hsplit).1]
    exact List.mem_append_right _ (List.mem_cons_of_mem _ hc)
  have hcolon : ∀ name ∈ field, ':' ∉ name.toList := by
    intro name hf
    obtain ⟨typed, hlookup, htyped⟩ := hfield name hf
    exact FieldRegistry.colon_not_mem_of_lookup hlookup htyped
  have hcase : ∀ name ∈ field, lowerChars name.toList = lowerChars (fieldPart d.name) →
      name.toList = fieldPart d.name := by
    intro name hf
    obtain ⟨typed, hlookup, -⟩ := hfield name hf
    exact hr.eq_fieldPart name (FieldRegistry.mem_names_of_lookup hlookup) d.name hname
  rw [Regex.foundIn_text, Pattern.finds_regex_eq_matchesToken hcolon hsplit hline
    (fun c hc => hquery c (hword hc)) hascii (hr.fieldPart_ne_nil _ hname) hcase]

/-- A field under an alias. -/
def aliased (field aliasName : String) : Declaration :=
  ⟨field, { SearchOptions.empty with aliasName := some aliasName }⟩

def snippetFields : FieldRegistry := (FieldRegistry.empty "snippet").insertAll
  [.direct "snippet" (aliased "cpp" "C++"), .direct "snippet" (aliased "number" "No.")]

def snippetRecord : Json :=
  .object [("cpp", .string "std::Vector"), ("number", .array [.string "(2b)", .string "7"])]

theorem foundIn_snippetRecord :
    snippetFields.Expressible ∧ IsAscii "NO.:2B c++:'::vec'".toList ∧
    (∀ t ∈ (Indexer.mk true).index snippetRecord snippetFields, IsAscii t.toList) ∧
    Pattern.ofWord (some "C++") "vec" ∈ compile snippetFields.lookup "NO.:2B c++:'::vec'" ∧
    "C++:std::vector" ∈ (Indexer.mk true).index snippetRecord snippetFields ∧
    Regex.foundIn (Pattern.ofWord (some "C++") "vec").regex.text "C++:std::vector" = true := by
  have hr : snippetFields.Expressible :=
    FieldRegistry.expressible_of_isKey (by decide +kernel) (by decide +kernel)
  have hquery : IsAscii "NO.:2B c++:'::vec'".toList := by decide +kernel
  have htokens : ∀ t ∈ (Indexer.mk true).index snippetRecord snippetFields, IsAscii t.toList := by
    decide +kernel
  have hp : Pattern.ofWord (some "C++") "vec" ∈
      compile snippetFields.lookup "NO.:2B c++:'::vec'" := by decide +kernel
  have ht : "C++:std::vector" ∈ (Indexer.mk true).index snippetRecord snippetFields := by
    decide +kernel
  exact ⟨hr, hquery, htokens, hp, ht,
    (foundIn_iff_matchesToken hr hquery htokens _ hp _ ht).mpr (by decide +kernel)⟩

def twinSchema : Schema := Schema.empty.insert "post"
  (.ofParts ["a", "b"] [] [aliased "a" "Title", aliased "b" "title"])

def twinFields : FieldRegistry := (FieldRegistry.empty "post").insertAll
  [.direct "post" (aliased "a" "Title"), .direct "post" (aliased "b" "title")]

/-- The second field is asked for, and the expression has a match in a token of the first. -/
theorem not_forall_foundIn_iff_matchesToken :
    ¬ ∀ (schema : Schema) (type : String) (r : FieldRegistry), schema.registry type = .ok r →
      ∀ (query : String) (ix : Indexer) (record : Json), IsAscii query.toList →
      (∀ t ∈ ix.index record r, IsAscii t.toList) →
      ∀ p ∈ compile r.lookup query, ∀ t ∈ ix.index record r,
        Regex.foundIn p.regex.text t = true ↔ p.matchesToken t = true := by
  intro h
  have hregistry : twinSchema.registry "post" = .ok twinFields := by cbv
  have htokens : (Indexer.mk false).index (.object [("a", .string "rust")]) twinFields = ["Title:rust"] := by
    decide +kernel
  have hpatterns : compile twinFields.lookup "title:rust" =
      [Pattern.ofWord (some "title") "rust"] := by decide +kernel
  have hiff := h twinSchema "post" twinFields hregistry "title:rust" ⟨false⟩
    (.object [("a", .string "rust")]) (by decide) (by rw [htokens]; decide)
    (Pattern.ofWord (some "title") "rust") (by rw [hpatterns]; exact List.mem_singleton_self _)
    "Title:rust" (by rw [htokens]; exact List.mem_singleton_self _)
  have hfound : Regex.foundIn (Pattern.ofWord (some "title") "rust").regex.text "Title:rust" =
      true := by decide +kernel
  have hmissed : (Pattern.ofWord (some "title") "rust").matchesToken "Title:rust" = false := by
    decide +kernel
  rw [hmissed] at hiff
  exact Bool.false_ne_true (hiff.mp hfound)

end RecordSearch
