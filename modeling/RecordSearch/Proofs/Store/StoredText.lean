import RecordSearch.Proofs.Index.RecordWalk
import RecordSearch.Proofs.Index.TokenChars
import RecordSearch.Proofs.Query.Matching
import RecordSearch.Proofs.Query.Reading
import RecordSearch.Store

/-!
Searching for a text as it was stored. The index cuts words at punctuation, a query only trims them,
so what decides is whether a trimmed word has punctuation in it (`IsUncut`). If none has, the query
finds the record; if no field keeps punctuation, it does so only then (`mem_search_textRecord`). A
hyphen is enough to miss the record (`not_forall_mem_search_textRecord`).
-/

namespace RecordSearch

open RecordSearch.Text RecordSearch.Query RecordSearch.Index

def textRecord (field text : String) : Json := .object [(field, .string text)]

/-- No trimmed word of the text has punctuation in it. The underscore is punctuation, but it is not
trimmed. -/
def IsUncut (text : String) : Prop :=
  ∀ w ∈ Term.valueWords text.toList, ∀ c ∈ w, isPunctuation c = false

instance (text : String) : Decidable (IsUncut text) :=
  decidable_of_iff ((Term.valueWords text.toList).all fun w => w.all (!isPunctuation ·))
    (by simp [IsUncut])

/-! ## Segments -/

theorem get?_textRecord (field text name : String) :
    (textRecord field text).get? name = if name = field then some (.string text) else none := by
  by_cases h : name = field
  · simp [textRecord, Json.get?, h]
  · have hb : (name == field) = false := by simpa using h
    simp [textRecord, Json.get?, List.lookup_cons, hb, h]

theorem segments_textRecord {d : FieldDescriptor} (hplain : d.relations = []) (text : String) :
    (d.valueIn (textRecord d.field text)).segments = [(none, text)] := by
  rw [FieldDescriptor.valueIn, hplain, FieldValue.along, FieldValue.atField, get?_textRecord,
    if_pos rfl]
  rfl

/-- No walk finds more in the record than the text: it ends there, since a text has no fields. -/
theorem eq_of_mem_walk_textRecord {rs : List String} {field text last : String} {leaf : Leaf}
    (h : leaf ∈ (textRecord field text).walk rs last) : leaf = ⟨[], text⟩ := by
  cases rs with
  | nil =>
    rw [Json.walk, Json.leavesAt, get?_textRecord] at h
    by_cases hlast : last = field
    · simpa [hlast, Json.leaves] using h
    · simp [hlast] at h
  | cons r rs =>
    have hend : (Json.string text).walk rs last = [] := Json.walk_of_not_isObject rfl rs last
    rw [Json.walk, Json.related, get?_textRecord] at h
    by_cases hr : r = field
    · simp [hr, Json.records, hend] at h
    · simp [hr] at h

theorem eq_of_mem_segments_textRecord {e : FieldDescriptor} {field text : String}
    {segment : Option String × String}
    (h : segment ∈ (e.valueIn (textRecord field text)).segments) : segment = (none, text) := by
  rw [FieldDescriptor.valueIn, FieldValue.segments_along] at h
  obtain ⟨leaf, hleaf, rfl⟩ := List.mem_map.mp h
  rw [eq_of_mem_walk_textRecord hleaf]
  rfl

/-! ## Found and not found -/

section

variable {r : FieldRegistry} {d : FieldDescriptor} {ix : Indexer} {text : String}
  (hquery : ∀ c ∈ text.toList, c ≠ ':' ∧ isQuote c = false)

include hquery

theorem matchesAll_index_textRecord (hd : d ∈ r.fields) (hplain : d.relations = [])
    (hstrip : d.keepsPunctuation ix.keepPunctuation = false) (h : IsUncut text) :
    Pattern.matchesAll (ix.index (textRecord d.field text) r) (compile r.lookup text) = true := by
  rw [compile_of_plain r.lookup hquery]
  refine List.all_eq_true.mpr fun p hp => ?_
  obtain ⟨w, hw, rfl⟩ := List.mem_map.mp hp
  obtain ⟨v, hv, hpart⟩ := exists_mem_normalizedWords_of_mem_valueWords hw (h w hw)
  have htoken : token d.name (String.ofList v) ∈ ix.tokensFor d (textRecord d.field text) := by
    refine mem_tokensFor_iff.mpr ⟨(none, text), ?_, v, ?_, rfl⟩
    · rw [segments_textRecord hplain]
      exact List.mem_singleton_self _
    · rwa [hstrip]
  have hmatch : (Pattern.ofWord none (String.ofList w)).matchesToken
      (token d.name (String.ofList v)) = true := by
    apply Pattern.matchesToken_any_of_infix
    · intro c hc
      rw [String.toList_ofList] at hc
      exact (isSmallLetter_of_mem_normalizedWords hv hc).lowered
    · rwa [String.toList_ofList, String.toList_ofList]
  exact List.any_eq_true.mpr ⟨_, List.mem_flatMap.mpr ⟨d, hd, htoken⟩, hmatch⟩

theorem isUncut_of_matchesAll {field : String}
    (hfields : ∀ e ∈ r.fields,
      e.keepsPunctuation ix.keepPunctuation = false ∧ ':' ∉ e.name.toList)
    (h : Pattern.matchesAll (ix.index (textRecord field text) r) (compile r.lookup text) = true) :
    IsUncut text := by
  intro w hw c hc
  rw [compile_of_plain r.lookup hquery] at h
  have hany := List.all_eq_true.mp h _ (List.mem_map.mpr ⟨w, hw, rfl⟩)
  obtain ⟨t, ht, hmatch⟩ := List.any_eq_true.mp hany
  obtain ⟨e, he, htoken⟩ := List.mem_flatMap.mp ht
  obtain ⟨hstrip, hcolon⟩ := hfields e he
  obtain ⟨segment, hsegment, v, hv, rfl⟩ := mem_tokensFor_iff.mp htoken
  rw [eq_of_mem_segments_textRecord hsegment, tokenRest, Pattern.matchesToken_ofWord_iff hcolon,
    String.toList_ofList, String.toList_ofList] at hmatch
  rw [hstrip] at hv
  cases hpunct : isPunctuation c with
  | false => rfl
  | true =>
    have hmark : isMark c = true := isMark_of_isPunctuation c hpunct
    have hlowered : c ∈ lowerChars w := (mem_lowerChars_iff hmark).mpr hc
    have hmem : c ∈ v := (mem_lowerChars_iff hmark).mp (hmatch.2.subset hlowered)
    rw [← hpunct, (isSmallLetter_of_mem_normalizedWords hv hmem).not_punctuation]

end

/-- A record with a text under a plain field is found by the text if no trimmed word of it has
punctuation in it, and not otherwise if all punctuation is stripped. -/
theorem mem_search_textRecord {s : RecordStore} {d : FieldDescriptor} (hd : d ∈ s.registry.fields)
    (hplain : d.relations = []) (hstrip : d.keepsPunctuation s.indexer.keepPunctuation = false)
    {text : String} (hquery : ∀ c ∈ text.toList, c ≠ ':' ∧ isQuote c = false)
    (later : List Json) :
    (IsUncut text → s.entry s.size (textRecord d.field text) ∈
      ((s.insert (textRecord d.field text)).2.insertAll later).search text) ∧
    ((∀ e ∈ s.registry.fields,
        e.keepsPunctuation s.indexer.keepPunctuation = false ∧ ':' ∉ e.name.toList) →
      s.entry s.size (textRecord d.field text) ∈
        ((s.insert (textRecord d.field text)).2.insertAll later).search text → IsUncut text) := by
  rw [RecordStore.mem_search_insertAll_insert_iff]
  exact ⟨matchesAll_index_textRecord hquery hd hplain hstrip, isUncut_of_matchesAll hquery⟩

def postTitle : FieldDescriptor := .direct "post" ⟨"title", .empty⟩

def posts : RecordStore := .empty ((FieldRegistry.empty "post").insert postTitle) ⟨false⟩

theorem mem_search_posts :
    postTitle ∈ posts.registry.fields ∧ postTitle.relations = [] ∧
    postTitle.keepsPunctuation posts.indexer.keepPunctuation = false ∧
    (∀ c ∈ "(Hello), rock & roll!".toList, c ≠ ':' ∧ isQuote c = false) ∧
    IsUncut "(Hello), rock & roll!" ∧
    posts.entry 0 (textRecord "title" "(Hello), rock & roll!") ∈
      (posts.insert (textRecord "title" "(Hello), rock & roll!")).2.search
        "(Hello), rock & roll!" := by
  have hd : postTitle ∈ posts.registry.fields := List.mem_singleton_self _
  have hquery : ∀ c ∈ "(Hello), rock & roll!".toList, c ≠ ':' ∧ isQuote c = false := by
    simp [isQuote]
  have huncut : IsUncut "(Hello), rock & roll!" := by decide +kernel
  exact ⟨hd, rfl, rfl, hquery, huncut, (mem_search_textRecord hd rfl rfl hquery []).1 huncut⟩

def postSchema : Schema := Schema.empty.insert "post" (.ofParts ["title"] [] [⟨"title", .empty⟩])

theorem not_forall_mem_search_textRecord :
    ¬ ∀ (schema : Schema) (type field : String) (r : FieldRegistry),
      schema.registry type = .ok r → FieldDescriptor.direct type ⟨field, .empty⟩ ∈ r.fields →
      ∀ text : String, (∀ c ∈ text.toList, c ≠ ':' ∧ isQuote c = false) →
        (RecordStore.empty r ⟨false⟩).entry 0 (textRecord field text) ∈
          ((RecordStore.empty r ⟨false⟩).insert (textRecord field text)).2.search text := by
  intro h
  have hregistry : postSchema.registry "post" = .ok posts.registry := by cbv
  have hquery : ∀ c ∈ "rust-lang".toList, c ≠ ':' ∧ isQuote c = false := by simp [isQuote]
  have hmem := h postSchema "post" "title" posts.registry hregistry (List.mem_singleton_self _)
    "rust-lang" hquery
  have hnone : (posts.insert (textRecord "title" "rust-lang")).2.search "rust-lang" = [] := by
    decide +kernel
  exact List.not_mem_nil (hnone ▸ hmem)

end RecordSearch
