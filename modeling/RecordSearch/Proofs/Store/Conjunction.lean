import RecordSearch.Proofs.Query.Parts
import RecordSearch.Proofs.Store.Histories

/-!
A query of two parts asks for both of them: it compiles to the patterns of its parts, and finds the
records that both parts find (`compile_append_and_mem_search_append_iff`).
-/

namespace RecordSearch

open RecordSearch.Text RecordSearch.Query RecordSearch.Index

theorem mem_search_append_iff {s : RecordStore} {left gap right : String}
    (hleft : ∀ c ∈ left.toList, isQuote c = false) (hne : gap ≠ "")
    (hgap : ∀ c ∈ gap.toList, isBlank c = true) {e : StoredRecord} :
    e ∈ s.search (left ++ gap ++ right) ↔ e ∈ s.search left ∧ e ∈ s.search right := by
  simp only [RecordStore.mem_search_iff, compile_append s.registry.lookup hleft hne hgap,
    Pattern.matchesAll_append, Bool.and_eq_true]
  exact and_and_left

/-- The first part has no quotes, so nothing of what follows can belong to a phrase of it. The
second may have any. -/
theorem compile_append_and_mem_search_append_iff {left gap : String}
    (hleft : ∀ c ∈ left.toList, isQuote c = false) (hne : gap ≠ "")
    (hgap : ∀ c ∈ gap.toList, isBlank c = true) (right : String) :
    (∀ lookup : FieldLookup,
      compile lookup (left ++ gap ++ right) = compile lookup left ++ compile lookup right) ∧
    ∀ s : RecordStore, s.Reachable →
      (s.search (left ++ gap ++ right)).Pairwise (·.id < ·.id) ∧
        ∀ e, e ∈ s.search (left ++ gap ++ right) ↔ e ∈ s.search left ∧ e ∈ s.search right :=
  ⟨fun lookup => compile_append lookup hleft hne hgap,
    fun _ hs => ⟨hs.pairwise_search _, fun _ => mem_search_append_iff hleft hne hgap⟩⟩

def filmFields : FieldRegistry :=
  (FieldRegistry.empty "film").insert (.direct "film" ⟨"title", .empty⟩)

/-- The first record is replaced after the second has been written. -/
def films : RecordStore := (RecordStore.empty filmFields ⟨false⟩).applyAll
  [.insert (.object [("title", .string "Heat")]), .insert (.object [("title", .string "The Heat")]),
    .replace 0 (.object [("title", .string "Heat of the Night")])]

/-- The first part ends in a field without a value, and the second starts with a phrase. -/
theorem mem_search_films :
    (∀ c ∈ "the title:heat:".toList, isQuote c = false) ∧ "\t " ≠ "" ∧
    (∀ c ∈ "\t ".toList, isBlank c = true) ∧ films.Reachable ∧
    (compile films.registry.lookup ("the title:heat:" ++ "\t " ++ "'night heat'")).map
      Pattern.display = ["*:*the*", "title:*heat*", "*:*night*", "*:*heat*"] ∧
    films.entry 0 (.object [("title", .string "Heat of the Night")]) ∈
      films.search ("the title:heat:" ++ "\t " ++ "'night heat'") := by
  have hleft : ∀ c ∈ "the title:heat:".toList, isQuote c = false := by simp [isQuote]
  have hgap : ∀ c ∈ "\t ".toList, isBlank c = true := List.all_eq_true.mp (by decide)
  have hfilms : films.Reachable := ⟨filmFields, ⟨false⟩, _, rfl⟩
  obtain ⟨hcompile, hsearch⟩ :=
    compile_append_and_mem_search_append_iff hleft (by decide) hgap "'night heat'"
  refine ⟨hleft, by decide, hgap, hfilms, ?_, ((hsearch films hfilms).2 _).mpr ⟨?_, ?_⟩⟩
  · rw [hcompile]
    decide +kernel
  · decide +kernel
  · decide +kernel

end RecordSearch
