import RecordSearch.Proofs.Query.Matching
import RecordSearch.Proofs.Query.Typing
import RecordSearch.Proofs.Store.Conjunction
import RecordSearch.Proofs.Text.AsciiCase

/-!
Searching while the query is typed. A letter or digit at the end of a query takes records away and
brings none (`search_push_sublist`), unless it is typed behind a colon.
-/

namespace RecordSearch

open RecordSearch.Text RecordSearch.Query

/-! ## Letters and digits -/

theorem endsKey_and_isWordChar_of_isAlphanum {c : Char} (hc : c.isAlphanum = true) :
    endsKey c = false ∧ isWordChar c = true :=
  of_ascii_table (P := fun c => c.isAlphanum = true → endsKey c = false ∧ isWordChar c = true)
    (by decide +kernel) (ascii_of_isAlphanum hc) hc

/-! ## Longer queries -/

/-- Each pattern of the shorter query has one of the longer query above it. Both are ASCII, where the
lower case of a letter does not depend on its neighbours. -/
theorem matchesAll_of_push {query : String} (hascii : IsAscii query.toList)
    (hcolon : query.toList.getLast? ≠ some ':') {c : Char} (hc : c.isAlphanum = true)
    {lookup : FieldLookup} {tokens : List String}
    (h : Pattern.matchesAll tokens (compile lookup (query.push c)) = true) :
    Pattern.matchesAll tokens (compile lookup query) = true := by
  obtain ⟨hends, hword⟩ := endsKey_and_isWordChar_of_isAlphanum hc
  have hblank : isBlank c = false := (endsKey_eq_false_iff.mp hends).1
  have hlonger : IsAscii (query.toList ++ [c]) :=
    List.forall_mem_append.mpr ⟨hascii, List.forall_mem_singleton.mpr (ascii_of_isAlphanum hc)⟩
  have htyped := scanChars_concat hends lookup hcolon
  rw [Pattern.matchesAll, List.all_eq_true] at h ⊢
  intro p hp
  obtain ⟨t, ht, w, hw, rfl⟩ := mem_compile_iff.mp hp
  obtain ⟨t', ht', hfield, w', hw', hinfix⟩ := htyped.covers hblank hword t ht w hw
  have hlower : lowerChars w.toList <:+: lowerChars w'.toList := by
    have hasciiw : IsAscii w.toList := fun d hd => hascii d (subset_of_mem_scanChars ht hw hd)
    have hasciiw' : IsAscii w'.toList := fun d hd => hlonger d (subset_of_mem_scanChars ht' hw' hd)
    rw [lowerChars_of_ascii hasciiw, lowerChars_of_ascii hasciiw']
    exact hinfix.map lowerAscii
  have hp' : Pattern.ofWord t.field w' ∈ compile lookup (query.push c) := by
    rw [← String.toList_push] at ht'
    exact mem_compile_iff.mpr ⟨t', ht', w', hw', by rw [hfield]⟩
  obtain ⟨token, htoken, hmatch⟩ := List.any_eq_true.mp (h _ hp')
  exact List.any_eq_true.mpr ⟨token, htoken, Pattern.matchesToken_of_infix hlower hmatch⟩

/-- A query that is typed further, but not directly behind a colon, asks for all that it asked for
before, and so a search gives some of the records that it gave before, in their order. -/
theorem search_push_sublist {query : String} (hascii : IsAscii query.toList)
    (hcolon : query.toList.getLast? ≠ some ':') {c : Char} (hc : c.isAlphanum = true) :
    (∀ (lookup : FieldLookup) (tokens : List String),
      Pattern.matchesAll tokens (compile lookup (query.push c)) = true →
        Pattern.matchesAll tokens (compile lookup query) = true) ∧
    ∀ s : RecordStore, (s.search (query.push c)).Sublist (s.search query) :=
  ⟨fun _ _ => matchesAll_of_push hascii hcolon hc,
    fun s => List.monotone_filter_right s.records fun _ => matchesAll_of_push hascii hcolon hc⟩

/-- The quote is never closed, so its first run is a value of the field and the second a term. -/
theorem search_push_films :
    IsAscii "title:'the he".toList ∧ "title:'the he".toList.getLast? ≠ some ':' ∧
    'a'.isAlphanum = true ∧
    (compile films.registry.lookup "title:'the he").map Pattern.display =
      ["title:*the*", "*:*he*"] ∧
    (compile films.registry.lookup "title:'the hea").map Pattern.display =
      ["title:*the*", "*:*hea*"] ∧
    (films.search "title:'the hea").Sublist (films.search "title:'the he") := by
  have hascii : IsAscii "title:'the he".toList := by decide +kernel
  have hcolon : "title:'the he".toList.getLast? ≠ some ':' := by decide +kernel
  have hpush : "title:'the he".push 'a' = "title:'the hea" := by decide +kernel
  have hsearch := (search_push_sublist hascii hcolon (c := 'a') (by decide)).2 films
  rw [hpush] at hsearch
  exact ⟨hascii, hcolon, by decide, by decide +kernel, by decide +kernel, hsearch⟩

/-- A letter behind a colon may make a name of what was a word. -/
example : (compile films.registry.lookup "title:").map Pattern.display = ["*:*title*"] ∧
    (compile films.registry.lookup "title:h").map Pattern.display = ["title:*h*"] := by
  decide +kernel

end RecordSearch
