import Mathlib.Data.List.Basic
import RecordSearch.Inflection
import RecordSearch.Proofs.Text.AsciiCase

/-!
The last segment of a name under inflection. The rest of the name stays, an empty segment stays
empty, and what the rules keep of a segment keeps its case. `WithinEnding.normalSegment_eq_self_iff`
says when the singular of the plural is the segment it was, letter for letter.
-/

namespace RecordSearch.Inflection

open RecordSearch.Text

/-! ## Rules -/

def Shape.texts : Shape → List String
  | word ws => ws
  | ending suffixes => suffixes
  | afterConsonant suffix => [suffix]

/-- The rule drops no more than it has compared and adds small letters. -/
structure Rule.Regular (r : Rule) : Prop where
  drop_le : ∀ s ∈ r.shape.texts, r.drop ≤ s.toList.length
  small : ∀ c ∈ r.add.toList, lowerAscii c = c ∧ c ≠ '_'

instance (r : Rule) : Decidable r.Regular :=
  decidable_of_iff (r.shape.texts.all (r.drop ≤ ·.toList.length) = true ∧
    r.add.toList.all (fun c => lowerAscii c == c && c != '_') = true)
    ⟨fun h => ⟨by simpa using h.1, by simpa using h.2⟩,
      fun h => ⟨by simpa using h.drop_le, by simpa using h.small⟩⟩

def Regular (rules : List Rule) : Prop := ∀ r ∈ rules, r.Regular

theorem regular_pluralRules : Regular pluralRules := by
  unfold Regular
  decide +kernel

theorem regular_singularRules : Regular singularRules := by
  unfold Regular
  decide +kernel

theorem Shape.exists_text_of_matches {shape : Shape} {w : List Char}
    (h : shape.matches w = true) : ∃ s ∈ shape.texts, s.toList <:+ w := by
  cases shape with
  | word ws =>
    obtain ⟨s, hs, hw⟩ := List.any_eq_true.mp h
    exact ⟨s, hs, beq_iff_eq.mp hw ▸ List.suffix_rfl⟩
  | ending suffixes =>
    obtain ⟨s, hs, hw⟩ := List.any_eq_true.mp h
    exact ⟨s, hs, List.isSuffixOf_iff_suffix.mp hw⟩
  | afterConsonant s =>
    refine ⟨s, List.mem_singleton_self s, ?_⟩
    by_cases hs : s.toList <:+ w
    · exact hs
    · simp [Shape.matches, stem?, hs] at h

theorem regular_firstRule {rules : List Rule} (hrules : Regular rules) (w : List Char) :
    (firstRule rules w).Regular ∧ (firstRule rules w).drop ≤ w.length := by
  rw [firstRule]
  cases h : rules.find? (·.shape.matches w) with
  | none => exact ⟨by decide +kernel, Nat.zero_le _⟩
  | some r =>
    have hr := hrules r (List.mem_of_find?_eq_some h)
    have hmatches : r.shape.matches w = true := by simpa using List.find?_some h
    obtain ⟨s, hs, hw⟩ := Shape.exists_text_of_matches hmatches
    exact ⟨hr, Nat.le_trans (hr.drop_le s hs) hw.length_le⟩

/-! ## Segments -/

/-- The characters of a segment that its rule keeps. -/
def kept (rules : List Rule) (segment : List Char) : List Char :=
  segment.take (segment.length - (firstRule rules (segment.map lowerAscii)).drop)

/-- The characters of a segment that its rule drops. -/
def replaced (rules : List Rule) (segment : List Char) : List Char :=
  segment.drop (segment.length - (firstRule rules (segment.map lowerAscii)).drop)

theorem kept_append_replaced (rules : List Rule) (segment : List Char) :
    kept rules segment ++ replaced rules segment = segment :=
  List.take_append_drop _ _

theorem inflectSegment_eq_kept_append (rules : List Rule) (segment : List Char) :
    inflectSegment rules segment =
      kept rules segment ++ (firstRule rules (segment.map lowerAscii)).add.toList := rfl

section Regular

variable {rules : List Rule} (hrules : Regular rules)

include hrules

theorem map_lowerAscii_inflectSegment (segment : List Char) :
    (inflectSegment rules segment).map lowerAscii =
      inflectSegment rules (segment.map lowerAscii) := by
  have hadd := map_lowerAscii_eq_self_iff.mpr fun c hc =>
    ((regular_firstRule hrules (segment.map lowerAscii)).1.small c hc).1
  rw [inflectSegment_eq_kept_append, inflectSegment_eq_kept_append, kept, kept,
    map_lowerAscii_map_lowerAscii, List.map_append, hadd, List.map_take, List.length_map]

theorem map_lowerAscii_inflectSegment_of_small {w : List Char} (hw : w.map lowerAscii = w) :
    (inflectSegment rules w).map lowerAscii = inflectSegment rules w := by
  rw [map_lowerAscii_inflectSegment hrules, hw]

theorem underscore_not_mem_inflectSegment {segment : List Char} (h : '_' ∉ segment) :
    '_' ∉ inflectSegment rules segment := by
  rw [inflectSegment_eq_kept_append, List.mem_append, not_or]
  exact ⟨fun hmem => h (List.mem_of_mem_take hmem),
    fun hmem => ((regular_firstRule hrules _).1.small _ hmem).2 rfl⟩

end Regular

/-- The singular of the plural of a segment. -/
def normalSegment (segment : List Char) : List Char :=
  inflectSegment singularRules (inflectSegment pluralRules segment)

theorem map_lowerAscii_normalSegment (segment : List Char) :
    (normalSegment segment).map lowerAscii = normalSegment (segment.map lowerAscii) := by
  rw [normalSegment, map_lowerAscii_inflectSegment regular_singularRules,
    map_lowerAscii_inflectSegment regular_pluralRules, normalSegment]

/-- The rules write over nothing in the word and add nothing to it. -/
def Keeps (rules : List Rule) (w : List Char) : Prop :=
  (firstRule rules w).drop = 0 ∧ inflectSegment rules w = w

theorem Keeps.replaced_eq_nil {rules : List Rule} {segment : List Char}
    (h : Keeps rules (segment.map lowerAscii)) : replaced rules segment = [] := by
  rw [replaced, h.1, Nat.sub_zero, List.drop_length]

theorem Keeps.inflectSegment_eq {rules : List Rule} {segment : List Char}
    (h : Keeps rules (segment.map lowerAscii)) : inflectSegment rules segment = segment := by
  have hkept (s : List Char) (hs : s.map lowerAscii = segment.map lowerAscii) :
      kept rules s = s := by
    rw [kept, hs, h.1, Nat.sub_zero, List.take_length]
  have hlower := map_lowerAscii_map_lowerAscii segment
  have hadd := h.2
  rw [inflectSegment_eq_kept_append, hkept _ hlower, hlower, List.append_right_eq_self] at hadd
  rw [inflectSegment_eq_kept_append, hkept segment rfl, hadd, List.append_nil]

/-- The singular of the plural takes back no more than the ending that the plural has added. -/
def WithinEnding (w : List Char) : Prop :=
  (firstRule singularRules (inflectSegment pluralRules w)).drop ≤
    (firstRule pluralRules w).add.toList.length

theorem WithinEnding.exists_normalSegment_eq {segment : List Char}
    (hdrop : WithinEnding (segment.map lowerAscii)) :
    ∃ tail : List Char, tail.map lowerAscii = tail ∧
      normalSegment segment = kept pluralRules segment ++ tail := by
  have hplural := (regular_firstRule regular_pluralRules (segment.map lowerAscii)).1
  have hsingular := (regular_firstRule regular_singularRules
    (inflectSegment pluralRules (segment.map lowerAscii))).1
  rw [WithinEnding] at hdrop
  rw [normalSegment, inflectSegment_eq_kept_append singularRules, kept,
    map_lowerAscii_inflectSegment regular_pluralRules,
    inflectSegment_eq_kept_append pluralRules segment]
  generalize firstRule singularRules (inflectSegment pluralRules (segment.map lowerAscii)) = s
    at hdrop hsingular ⊢
  generalize firstRule pluralRules (segment.map lowerAscii) = p at hdrop hplural ⊢
  have hlength : (kept pluralRules segment ++ p.add.toList).length - s.drop =
      (kept pluralRules segment).length + (p.add.toList.length - s.drop) := by
    rw [List.length_append]
    omega
  refine ⟨p.add.toList.take (p.add.toList.length - s.drop) ++ s.add.toList, ?_, ?_⟩
  · refine map_lowerAscii_eq_self_iff.mpr fun c hc => ?_
    obtain hc | hc := List.mem_append.mp hc
    · exact (hplural.small c (List.mem_of_mem_take hc)).1
    · exact (hsingular.small c hc).1
  · rw [hlength, List.take_length_add_append, List.append_assoc]

/-- When small letters lead from the singular to the plural and back, a segment in any case does the
same if the singular is written over letters that are small already. -/
theorem WithinEnding.normalSegment_eq_self_iff {segment : List Char}
    (hdrop : WithinEnding (segment.map lowerAscii))
    (hlower : normalSegment (segment.map lowerAscii) = segment.map lowerAscii) :
    normalSegment segment = segment ↔ ∀ c ∈ replaced pluralRules segment, lowerAscii c = c := by
  obtain ⟨tail, hsmall, hback⟩ := hdrop.exists_normalSegment_eq
  have hsame : (replaced pluralRules segment).map lowerAscii = tail := by
    have h := congrArg (List.map lowerAscii) hback
    rw [map_lowerAscii_normalSegment, hlower, List.map_append, hsmall] at h
    nth_rewrite 1 [← kept_append_replaced pluralRules segment] at h
    rw [List.map_append] at h
    exact List.append_cancel_left h
  calc normalSegment segment = segment
    _ ↔ (replaced pluralRules segment).map lowerAscii = replaced pluralRules segment := by
      nth_rewrite 2 [← kept_append_replaced pluralRules segment]
      rw [hback, List.append_cancel_left_eq, hsame]
    _ ↔ ∀ c ∈ replaced pluralRules segment, lowerAscii c = c := map_lowerAscii_eq_self_iff

/-! ## Names -/

theorem underscore_not_mem_splitSegment (cs : List Char) : '_' ∉ (splitSegment cs).2 := by
  induction cs with
  | nil => simp [splitSegment]
  | cons c cs ih =>
    by_cases hc : (splitSegment cs).1.isEmpty && c ≠ '_'
    · have hne : '_' ≠ c := by
        simp only [Bool.and_eq_true, decide_eq_true_eq] at hc
        exact hc.2.symm
      simp only [splitSegment, hc, ↓reduceIte, List.mem_cons, hne, ih, or_self, not_false_eq_true]
    · simp only [splitSegment, hc, Bool.false_eq_true, ↓reduceIte, ih, not_false_eq_true]

theorem splitSegment_of_not_mem {cs : List Char} (h : '_' ∉ cs) : splitSegment cs = ([], cs) := by
  induction cs with
  | nil => rfl
  | cons c cs ih =>
    obtain ⟨hc, hcs⟩ := List.ne_and_not_mem_of_not_mem_cons h
    rw [splitSegment, ih hcs]
    simp [hc.symm]

/-- The last segment of a name can be exchanged for another one. -/
theorem splitSegment_fst_append (cs : List Char) {segment : List Char} (h : '_' ∉ segment) :
    splitSegment ((splitSegment cs).1 ++ segment) = ((splitSegment cs).1, segment) := by
  induction cs with
  | nil => exact splitSegment_of_not_mem h
  | cons c cs ih =>
    by_cases hc : (splitSegment cs).1.isEmpty && c ≠ '_'
    · simp only [splitSegment, hc, ↓reduceIte, List.nil_append, splitSegment_of_not_mem h]
    · simp only [splitSegment, hc, Bool.false_eq_true, ↓reduceIte, List.cons_append, ih]

def lastSegment (name : String) : List Char := (splitSegment name.toList).2

theorem eq_iff_splitSegment_eq {a b : String} :
    a = b ↔ splitSegment a.toList = splitSegment b.toList := by
  refine ⟨fun h => h ▸ rfl, fun h => String.toList_inj.mp ?_⟩
  rw [← splitSegment_append a.toList, ← splitSegment_append b.toList, h]

/-- An empty segment has no number. -/
def inflectLast (rules : List Rule) (segment : List Char) : List Char :=
  if segment = [] then [] else inflectSegment rules segment

theorem splitSegment_inflect {rules : List Rule} (hrules : Regular rules) (name : String) :
    splitSegment (inflect rules name).toList =
      ((splitSegment name.toList).1, inflectLast rules (lastSegment name)) := by
  have hsegment := underscore_not_mem_splitSegment name.toList
  rw [inflect, String.toList_ofList, inflectChars, inflectLast, lastSegment]
  by_cases hnil : (splitSegment name.toList).2 = []
  · simp only [hnil, List.isEmpty_nil, ↓reduceIte]
    rw [← hnil]
  · simp only [hnil, List.isEmpty_iff, ↓reduceIte]
    exact splitSegment_fst_append _ (underscore_not_mem_inflectSegment hrules hsegment)

theorem splitSegment_normalize (name : String) :
    splitSegment (normalize name).toList =
      ((splitSegment name.toList).1, normalSegment (lastSegment name)) := by
  have hsingular (segment : List Char) :
      inflectLast singularRules segment = inflectSegment singularRules segment := by
    by_cases hnil : segment = []
    · rw [hnil]
      decide +kernel
    · rw [inflectLast, if_neg hnil]
  have hplural : inflectSegment singularRules (inflectLast pluralRules (lastSegment name)) =
      normalSegment (lastSegment name) := by
    by_cases hnil : lastSegment name = []
    · rw [hnil]
      decide +kernel
    · rw [inflectLast, if_neg hnil, normalSegment]
  rw [normalize, singularize, splitSegment_inflect regular_singularRules, pluralize, lastSegment,
    splitSegment_inflect regular_pluralRules, hsingular, hplural]

end RecordSearch.Inflection
