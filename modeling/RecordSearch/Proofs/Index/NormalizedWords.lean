import RecordSearch.Proofs.Index.TokenChars

/-!
The words a text is indexed by.

* `normalizedWords_append_space`: a space cuts a text in two, so that several texts with spaces between
  them have the words of each, one after another (`normalizeWords_intercalate`). A value without maps
  is tokenized as its display (`normalizeWords_display`).
* `isNormalized_of_mem`: every word is in lower case and has nothing left to cut it at. Such words are
  the texts that are their own only word (`normalizedWords_eq_self_iff`), so to normalize a word
  again changes nothing (`normalizeWords_of_mem`).
-/

namespace RecordSearch

open RecordSearch.Text

/-! ## Values without maps -/

namespace FieldValue

/-- There is no map in the value, at any depth. -/
inductive MapFree : FieldValue → Prop
  | absent : MapFree absent
  | scalar (text : String) : MapFree (scalar text)
  | list {items : List FieldValue} (h : ∀ v ∈ items, MapFree v) : MapFree (list items)

/-- Nothing in such a value stands under a key. -/
theorem MapFree.key_eq_none {v : FieldValue} (hv : v.MapFree) :
    ∀ segment ∈ v.segments, segment.1 = none := by
  induction hv with
  | absent => simp [segments, segmentsUnder]
  | scalar text => simp [segments, segmentsUnder]
  | list h ih =>
    intro segment hsegment
    rw [segments_list] at hsegment
    obtain ⟨v, hv, hsegment⟩ := List.mem_flatMap.mp hsegment
    exact ih v hv segment hsegment

theorem MapFree.display_eq {v : FieldValue} (hv : v.MapFree) :
    v.display = " ".intercalate (v.segments.map (·.2)) := by
  have htext : v.segments.map segmentText = v.segments.map (·.2) := by
    refine List.map_congr_left fun segment hsegment => ?_
    obtain ⟨key, text⟩ := segment
    obtain rfl : key = none := hv.key_eq_none _ hsegment
    rfl
  rw [display, htext]

end FieldValue

namespace Index

/-! ## Several texts -/

theorem blankPunctuation_append_space (keep : Bool) (cs rest : List Char) :
    blankPunctuation keep (cs ++ ' ' :: rest) =
      blankPunctuation keep cs ++ ' ' :: blankPunctuation keep rest := by
  cases keep <;> simp [blankPunctuation]

/-- The space stops the view of a sigma, so each side is lowered as it is on its own. -/
theorem normalizedWords_append_space (keep : Bool) (cs rest : List Char) :
    normalizedWords keep (cs ++ ' ' :: rest) =
      normalizedWords keep cs ++ normalizedWords keep rest := by
  rw [normalizedWords, blankPunctuation_append_space, lowerChars_append_blank isBlank_space,
    words_append_blank isBlank_space, normalizedWords, normalizedWords]

theorem normalizeWords_append_space (left right : String) (keep : Bool) :
    normalizeWords (left ++ " " ++ right) keep =
      normalizeWords left keep ++ normalizeWords right keep := by
  have htext : (left ++ " " ++ right).toList = left.toList ++ ' ' :: right.toList := by simp
  rw [normalizeWords, htext, normalizedWords_append_space, List.map_append, normalizeWords,
    normalizeWords]

theorem normalizeWords_intercalate (texts : List String) (keep : Bool) :
    normalizeWords (" ".intercalate texts) keep = texts.flatMap (normalizeWords · keep) := by
  induction texts with
  | nil => cases keep <;> rfl
  | cons text texts ih =>
    cases texts with
    | nil => simp
    | cons other texts =>
      rw [List.flatMap_cons, ← ih, String.intercalate_cons_of_ne_nil (List.cons_ne_nil _ _),
        normalizeWords_append_space]

/-- Piece by piece or all at once: a value without maps has the same words. -/
theorem normalizeWords_display {v : FieldValue} (hv : v.MapFree) (keep : Bool) :
    v.display = " ".intercalate (v.segments.map (·.2)) ∧
      v.segments.flatMap (fun segment => normalizeWords segment.2 keep) =
        normalizeWords v.display keep := by
  refine ⟨hv.display_eq, ?_⟩
  rw [hv.display_eq, normalizeWords_intercalate, List.flatMap_map]

/-- Sigmas stand next to each other over the ends of the texts. -/
def ways : FieldValue :=
  .list [.scalar "ΟΔΟΣ", .absent, .list [.scalar "ΣΑΣ", .scalar ""], .scalar "Σ-ΑΣ!"]

theorem normalizeWords_display_ways : ways.MapFree ∧
    ways.display = " ".intercalate ["ΟΔΟΣ", "ΣΑΣ", "", "Σ-ΑΣ!"] ∧
    ways.segments.flatMap (fun segment => normalizeWords segment.2 false) =
      normalizeWords ways.display false ∧
    normalizeWords ways.display false = ["οδος", "σας", "σ", "ας"] := by
  have hinner : FieldValue.MapFree (.list [.scalar "ΣΑΣ", .scalar ""]) := by
    refine .list ?_
    simpa using ⟨.scalar _, .scalar _⟩
  have hways : ways.MapFree := by
    refine .list ?_
    simpa using ⟨.scalar _, .absent, hinner, .scalar _⟩
  obtain ⟨hdisplay, hwords⟩ := normalizeWords_display hways false
  exact ⟨hways, hdisplay, hwords, by decide +kernel⟩

/-! ## Words again -/

/-- A text that has no blank, is in lower case and, where punctuation is not kept, has none. -/
structure IsNormalized (keep : Bool) (w : List Char) : Prop where
  ne_nil : w ≠ []
  not_blank : ∀ c ∈ w, isBlank c = false
  lowered : ∀ c ∈ w, IsLowered c
  not_punctuation : keep = false → ∀ c ∈ w, isPunctuation c = false

theorem isNormalized_of_mem {keep : Bool} {cs w : List Char} (hw : w ∈ normalizedWords keep cs) :
    IsNormalized keep w where
  ne_nil := ne_nil_of_mem_words hw
  not_blank := not_blank_of_mem_words hw
  lowered _ hc := isLowered_of_mem_lowerChars (mem_of_mem_words hw hc)
  not_punctuation hkeep _ hc := by
    subst hkeep
    exact (isSmallLetter_of_mem_normalizedWords hw hc).not_punctuation

theorem IsNormalized.blankPunctuation_eq {keep : Bool} {w : List Char} (h : IsNormalized keep w) :
    blankPunctuation keep w = w := by
  cases keep with
  | true => rfl
  | false => exact map_blankMark_of_not_punctuation (h.not_punctuation rfl)

/-- The words are exactly the texts that are left as they are. -/
theorem normalizedWords_eq_self_iff {keep : Bool} {w : List Char} :
    normalizedWords keep w = [w] ↔ IsNormalized keep w := by
  constructor
  · intro h
    have hmem : w ∈ normalizedWords keep w := by
      rw [h]
      exact List.mem_singleton_self w
    exact isNormalized_of_mem hmem
  · intro h
    rw [normalizedWords, h.blankPunctuation_eq, lowerChars_of_isLowered h.lowered,
      words_of_not_blank h.ne_nil h.not_blank]

/-- A word can be normalized as often as one likes. -/
theorem normalizeWords_of_mem {text w : String} {keep : Bool} (hw : w ∈ normalizeWords text keep) :
    normalizeWords w keep = [w] ∧ w ≠ "" ∧ (∀ c ∈ w.toList, isBlank c = false) ∧ lower w = w ∧
      (keep = false → ∀ c ∈ w.toList, isPunctuation c = false) := by
  obtain ⟨cs, hcs, rfl⟩ := List.mem_map.mp hw
  have hnormal := isNormalized_of_mem hcs
  rw [String.toList_ofList]
  refine ⟨?_, ?_, hnormal.not_blank, ?_, hnormal.not_punctuation⟩
  · rw [normalizeWords, String.toList_ofList, normalizedWords_eq_self_iff.mpr hnormal,
      List.map_singleton]
  · simpa using hnormal.ne_nil
  · rw [lower, String.toList_ofList, lowerChars_of_isLowered hnormal.lowered]

/-- The small form of the first letter is two characters, and the second letter ends the word. -/
theorem normalizeWords_of_mem_cut : "i\u0307ς" ∈ normalizeWords "ΟΔΥΣΣΕΥΣ, İΣ-α" false ∧
    normalizeWords "i\u0307ς" false = ["i\u0307ς"] ∧ "i\u0307ς" ≠ "" ∧
    (∀ c ∈ "i\u0307ς".toList, isBlank c = false) ∧ lower "i\u0307ς" = "i\u0307ς" ∧
    (false = false → ∀ c ∈ "i\u0307ς".toList, isPunctuation c = false) := by
  have hmem : "i\u0307ς" ∈ normalizeWords "ΟΔΥΣΣΕΥΣ, İΣ-α" false := by decide +kernel
  exact ⟨hmem, normalizeWords_of_mem hmem⟩

end Index

end RecordSearch
