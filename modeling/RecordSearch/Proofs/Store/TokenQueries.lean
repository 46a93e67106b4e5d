import RecordSearch.Proofs.Index.TokenChars
import RecordSearch.Proofs.Query.Matching
import RecordSearch.Proofs.Query.Reading
import RecordSearch.Store

/-!
Tokens as queries. The text of a token names its field and goes on with parts of what follows the
name, so it is satisfied wherever the token is (`matchesAll_compile_token`). A store therefore finds
a record by each of its tokens (`mem_search_of_mem_tokensFor`).
-/

namespace RecordSearch

open RecordSearch.Text RecordSearch.Query RecordSearch.Index

/-- What is in lower case already is looked for as it is. -/
theorem matchesAll_compile_token {lookup : FieldLookup} {name rest : String} (hname : IsKey name)
    (hlookup : lookup name = some name) (hne : rest ≠ "") (hrest : ∀ c ∈ rest.toList, TokenChar c)
    {tokens : List String} (hmem : token name rest ∈ tokens) :
    Pattern.matchesAll tokens (compile lookup (token name rest)) = true := by
  rw [compile, token, scan_of_isKey hname hlookup hne
    fun c hc => ⟨(hrest c hc).not_blank, (hrest c hc).not_quote⟩, List.flatMap_singleton]
  refine List.all_eq_true.mpr fun p hp => ?_
  obtain ⟨word, hword, rfl⟩ := List.mem_map.mp hp
  have hpart : word.toList <:+: rest.toList := infix_of_mem_words_readKeys hword
  have hlowered : lowerChars word.toList <:+: lowerChars rest.toList := by
    rw [lowerChars_of_isLowered fun c hc => (hrest c hc).lowered,
      lowerChars_of_isLowered fun c hc => (hrest c (hpart.subset hc)).lowered]
    exact hpart
  have hmatch : (Pattern.ofWord (some name) word).matchesToken (token name rest) = true :=
    (Pattern.matchesToken_ofWord_iff hname.not_mem_colon).mpr ⟨by simp, hlowered⟩
  exact List.any_eq_true.mpr ⟨_, hmem, hmatch⟩

/-! ## Records -/

/-- The keys under which a field has text in a record. -/
def FieldDescriptor.keysIn (d : FieldDescriptor) (record : Json) : List String :=
  (d.valueIn record).segments.filterMap Prod.fst

/-- Every token of a field without punctuation is a query that the record satisfies, and by which a
store finds the record. -/
theorem mem_search_of_mem_tokensFor {r : FieldRegistry} (hnames : ∀ name ∈ r.names, IsKey name)
    {d : FieldDescriptor} (hd : d ∈ r.fields) {ix : Indexer}
    (hstrip : d.keepsPunctuation ix.keepPunctuation = false) {record : Json}
    (hkeys : ∀ key ∈ d.keysIn record, ∀ c ∈ key.toList, isQuote c = false) {token : String}
    (htoken : token ∈ ix.tokensFor d record) :
    Pattern.matchesAll (ix.index record r) (compile r.lookup token) = true ∧
      ∀ s : RecordStore, s.registry = r → s.indexer = ix → ∀ later : List Json,
        s.entry s.size record ∈ ((s.insert record).2.insertAll later).search token := by
  have hmatch : Pattern.matchesAll (ix.index record r) (compile r.lookup token) = true := by
    obtain ⟨rest, rfl, hne, hrest⟩ := tokenChar_of_mem_tokensFor hstrip
      (fun segment hsegment key hkey =>
        hkeys key (List.mem_filterMap.mpr ⟨segment, hsegment, hkey⟩)) htoken
    have hname : d.name ∈ r.names := List.mem_map.mpr ⟨d, hd, rfl⟩
    exact matchesAll_compile_token (hnames _ hname) (FieldRegistry.lookup_of_mem hname) hne hrest
      (List.mem_flatMap.mpr ⟨d, hd, htoken⟩)
  refine ⟨hmatch, fun s hr hix later => RecordStore.mem_search_insertAll_insert_iff.mpr ?_⟩
  rw [hr, hix]
  exact hmatch

/-- Side titles of discs, under their numbers. -/
def discSides : FieldDescriptor := .direct "disc" ⟨"sides", .empty⟩

def discFields : FieldRegistry := (FieldRegistry.empty "disc").insert discSides

/-- One side has no number. -/
def discRecord : Json := .object
  [("sides", .object [("No. 1:", .string "Émile's"), ("", .array [.string "B-side"])])]

theorem mem_search_discRecord :
    (∀ name ∈ discFields.names, IsKey name) ∧ discSides ∈ discFields.fields ∧
    discSides.keepsPunctuation false = false ∧
    (∀ key ∈ discSides.keysIn discRecord, ∀ c ∈ key.toList, isQuote c = false) ∧
    ∀ token ∈ ["side:no._1_:émile", "side:no._1_:s", "side::b", "side::side"],
      token ∈ (Indexer.mk false).tokensFor discSides discRecord ∧
        (RecordStore.empty discFields ⟨false⟩).entry 0 discRecord ∈
          ((RecordStore.empty discFields ⟨false⟩).insert discRecord).2.search token := by
  have hside : IsKey "side" := by decide +kernel
  have hnames : ∀ name ∈ discFields.names, IsKey name := by
    rw [show discFields.names = ["side"] by decide +kernel]
    exact List.forall_mem_singleton.mpr hside
  have hd : discSides ∈ discFields.fields := List.mem_singleton_self _
  have hkeysIn : discSides.keysIn discRecord = ["No. 1:", ""] := by decide +kernel
  have hkeys : ∀ key ∈ discSides.keysIn discRecord, ∀ c ∈ key.toList, isQuote c = false := by
    simp [hkeysIn, isQuote]
  have htokens : (Indexer.mk false).tokensFor discSides discRecord =
      ["side:no._1_:émile", "side:no._1_:s", "side::b", "side::side"] := by
    decide +kernel
  refine ⟨hnames, hd, rfl, hkeys, fun token htoken => ?_⟩
  rw [← htokens] at htoken
  exact ⟨htoken, (mem_search_of_mem_tokensFor hnames hd rfl hkeys htoken).2 _ rfl rfl []⟩

end RecordSearch
