import Mathlib.Data.List.Basic
import Mathlib.Data.List.Infix
import RecordSearch.Proofs.Inflection.Endings
import RecordSearch.Proofs.Text.Utf8

/-!
Inflection in bytes. Here the rules compare the bytes of a segment, look one byte back for a vowel
and count the bytes that they drop. Since they compare with letters only (`Lettered`) and drop no
more than they have compared (`Regular`), this is inflection of characters:
`Shape.matchesBytes_utf8` and `inflectBytes_utf8`.

`cutsLetters_and_foldCase` says what this comes to for a name in any script. A cut takes some letters
from the end of the last segment and stays clear of other characters, all before the segment is
kept, and a name in small letters is inflected like the name.
-/

namespace RecordSearch.Inflection

open RecordSearch.Text

/-! ## Rules on bytes -/

/-- The byte before the last `offset` bytes is a vowel. -/
def vowelBefore (offset : Nat) (bs : List UInt8) : Bool :=
  decide (offset < bs.length) &&
    bs[bs.length - offset - 1]?.any fun b => (utf8 "aeiouy".toList).contains b

def Shape.matchesBytes (bs : List UInt8) : Shape → Bool
  | word ws => ws.any (utf8 ·.toList == bs)
  | ending suffixes => suffixes.any (fun s => (utf8 s.toList).isSuffixOf bs)
  | afterConsonant suffix =>
    decide (suffix.utf8ByteSize < bs.length) && (utf8 suffix.toList).isSuffixOf bs &&
      ((utf8 (['q', 'u'] ++ suffix.toList)).isSuffixOf bs ||
        !vowelBefore suffix.utf8ByteSize bs)

/-- The rule for a segment, found by comparing bytes. -/
def byteRule (rules : List Rule) (segment : List UInt8) : Rule :=
  (rules.find? (·.shape.matchesBytes (segment.map lowerByte))).getD (keep (.ending [""]))

/-- How many bytes of a segment stay. -/
def cutAt (rules : List Rule) (segment : List UInt8) : Nat :=
  segment.length - (byteRule rules segment).drop

def inflectBytes (rules : List Rule) (segment : List UInt8) : List UInt8 :=
  if segment = [] then []
  else segment.take (cutAt rules segment) ++ utf8 (byteRule rules segment).add.toList

/-! ## Letters -/

/-- The rule compares with letters only. -/
def Rule.Lettered (r : Rule) : Prop := ∀ s ∈ r.shape.texts, ∀ c ∈ s.toList, c.isAlpha = true

instance (r : Rule) : Decidable r.Lettered :=
  decidable_of_iff (r.shape.texts.all (·.toList.all (·.isAlpha)) = true)
    (by simp only [List.all_eq_true, Rule.Lettered])

def Lettered (rules : List Rule) : Prop := ∀ r ∈ rules, r.Lettered

theorem lettered_pluralRules : Lettered pluralRules := by
  unfold Lettered
  decide +kernel

theorem lettered_singularRules : Lettered singularRules := by
  unfold Lettered
  decide +kernel

/-! ## Shapes -/

theorem vowelBefore_append (pre : List UInt8) (b : UInt8) (bs : List UInt8) :
    vowelBefore bs.length (pre ++ b :: bs) = (utf8 "aeiouy".toList).contains b := by
  have hlength : (pre ++ b :: bs).length = pre.length + (bs.length + 1) := by
    rw [List.length_append, List.length_cons]
  have hshorter : bs.length < (pre ++ b :: bs).length := by omega
  have hindex : (pre ++ b :: bs).length - bs.length - 1 = pre.length := by omega
  rw [vowelBefore, decide_eq_true hshorter, hindex, List.getElem?_append_right (Nat.le_refl _),
    Nat.sub_self, Bool.true_and]
  rfl

/-- Before an ending, the last byte of a character tells whether the character is a vowel. -/
theorem vowelBefore_utf8 (init : List Char) (c : Char) (bs : List UInt8) :
    vowelBefore bs.length (utf8 (init ++ [c]) ++ bs) = isVowel c := by
  obtain ⟨front, b, hc⟩ := exists_utf8EncodeChar_eq_concat c
  have hsplit : utf8 (init ++ [c]) ++ bs = (utf8 init ++ front) ++ b :: bs := by
    rw [utf8_concat, hc]
    simp only [List.append_assoc, List.singleton_append]
  rw [hsplit, vowelBefore_append, isVowel, Bool.eq_iff_iff, List.contains_iff_mem,
    List.contains_iff_mem]
  exact mem_utf8_iff_of_ascii (by decide +kernel) hc

theorem Shape.matches_afterConsonant_append (pre : List Char) (suffix : String) :
    (afterConsonant suffix).matches (pre ++ suffix.toList) = endsInConsonant pre := by
  simp [Shape.matches, stem?]

theorem Shape.matchesBytes_afterConsonant_append {suffix : String} (hs : IsAscii suffix.toList)
    (pre : List Char) : (afterConsonant suffix).matchesBytes (utf8 (pre ++ suffix.toList)) =
      endsInConsonant pre := by
  have hsuffix : (utf8 suffix.toList).isSuffixOf (utf8 (pre ++ suffix.toList)) = true := by
    simp
  have hqu : IsAscii (['q', 'u'] ++ suffix.toList) := by
    have hletters : IsAscii ['q', 'u'] := by decide
    exact List.forall_mem_append.mpr ⟨hletters, hs⟩
  rw [matchesBytes, hsuffix, ← length_utf8, Bool.and_true]
  rcases List.eq_nil_or_concat' pre with rfl | ⟨init, c, rfl⟩
  · simp [endsInConsonant]
  · have hlonger : (utf8 suffix.toList).length < (utf8 (init ++ [c] ++ suffix.toList)).length := by
      have hpos : 0 < (utf8 (init ++ [c])).length := List.length_pos_iff.mpr (by simp)
      rw [utf8_append, List.length_append]
      omega
    rw [decide_eq_true hlonger, Bool.true_and, utf8_isSuffixOf_utf8 hqu,
      append_isSuffixOf_append, utf8_append, vowelBefore_utf8, endsInConsonant,
      List.getLast?_concat, Bool.or_comm]

theorem Shape.matchesBytes_utf8 {shape : Shape}
    (hshape : ∀ s ∈ shape.texts, ∀ c ∈ s.toList, c.isAlpha = true) (w : List Char) :
    shape.matchesBytes (utf8 w) = shape.matches w := by
  have hascii (s : String) (hs : s ∈ shape.texts) : IsAscii s.toList :=
    fun c hc => ascii_of_isAlpha (hshape s hs c hc)
  cases shape with
  | word ws => simp only [Shape.matchesBytes, Shape.matches, utf8_beq_utf8]
  | ending suffixes =>
    rw [Shape.matchesBytes, Shape.matches, Bool.eq_iff_iff, List.any_eq_true, List.any_eq_true]
    refine exists_congr fun s => and_congr_right fun hs => ?_
    rw [utf8_isSuffixOf_utf8 (hascii s hs)]
  | afterConsonant suffix =>
    have hs := hascii suffix (List.mem_singleton_self suffix)
    by_cases hw : suffix.toList <:+ w
    · obtain ⟨pre, rfl⟩ := hw
      rw [matchesBytes_afterConsonant_append hs, matches_afterConsonant_append]
    · have hnone : suffix.toList.isSuffixOf w = false := by
        rwa [Bool.eq_false_iff, ne_eq, List.isSuffixOf_iff_suffix]
      rw [matchesBytes, utf8_isSuffixOf_utf8 hs, Shape.matches, stem?, hnone]
      simp

/-! ## Segments -/

theorem utf8_kept_append_utf8_replaced (rules : List Rule) (segment : List Char) :
    utf8 (kept rules segment) ++ utf8 (replaced rules segment) = utf8 segment := by
  rw [← utf8_append, kept_append_replaced]

section Lettered

variable {rules : List Rule} (hregular : Regular rules) (hlettered : Lettered rules)

include hlettered

theorem byteRule_utf8 (segment : List Char) :
    byteRule rules (utf8 segment) = firstRule rules (segment.map lowerAscii) := by
  rw [byteRule, firstRule, map_lowerByte_utf8]
  congr 1
  refine List.find?_congr fun r hr => ?_
  exact Shape.matchesBytes_utf8 (hlettered r hr) _

include hregular

theorem isAlpha_of_mem_drop_firstRule {w : List Char} {c : Char}
    (hc : c ∈ w.drop (w.length - (firstRule rules w).drop)) : c.isAlpha = true := by
  rw [firstRule] at hc
  cases h : rules.find? (·.shape.matches w) with
  | none => simp [h, keep] at hc
  | some r =>
    have hr := List.mem_of_find?_eq_some h
    have hmatches : r.shape.matches w = true := by simpa using List.find?_some h
    obtain ⟨s, hs, t, rfl⟩ := Shape.exists_text_of_matches hmatches
    have hdrop := (hregular r hr).drop_le s hs
    have hlength : (t ++ s.toList).length - r.drop =
        t.length + (s.toList.length - r.drop) := by
      rw [List.length_append]
      omega
    rw [h, Option.getD_some, hlength, List.drop_length_add_append] at hc
    exact hlettered r hr s hs c (List.mem_of_mem_drop hc)

/-- Only letters are dropped. -/
theorem isAlpha_of_mem_replaced {segment : List Char} {c : Char}
    (hc : c ∈ replaced rules segment) : c.isAlpha = true := by
  have hlower := List.mem_map_of_mem (f := lowerAscii) hc
  rw [replaced, List.map_drop] at hlower
  rw [← isAlpha_lowerAscii]
  refine isAlpha_of_mem_drop_firstRule hregular hlettered (w := segment.map lowerAscii) ?_
  rwa [List.length_map]

theorem length_utf8_replaced (segment : List Char) :
    (utf8 (replaced rules segment)).length = (byteRule rules (utf8 segment)).drop := by
  have hascii : IsAscii (replaced rules segment) := fun c hc =>
    ascii_of_isAlpha (isAlpha_of_mem_replaced hregular hlettered hc)
  have hdrop := (regular_firstRule hregular (segment.map lowerAscii)).2
  rw [List.length_map] at hdrop
  rw [utf8_of_ascii hascii, List.length_map, replaced, List.length_drop, byteRule_utf8 hlettered]
  omega

theorem isLetterByte_of_mem_utf8_replaced {segment : List Char} {b : UInt8}
    (hb : b ∈ utf8 (replaced rules segment)) : isLetterByte b = true := by
  obtain ⟨c, hc, hb⟩ := List.mem_flatMap.mp hb
  have halpha := isAlpha_of_mem_replaced hregular hlettered hc
  rw [utf8EncodeChar_of_ascii (ascii_of_isAlpha halpha), List.mem_singleton] at hb
  rw [hb, isLetterByte_toUInt8 halpha]

/-- The cut in bytes falls between two characters. -/
theorem cutAt_utf8 (segment : List Char) :
    cutAt rules (utf8 segment) = (utf8 (kept rules segment)).length := by
  have hlength := congrArg List.length (utf8_kept_append_utf8_replaced rules segment)
  rw [List.length_append, length_utf8_replaced hregular hlettered] at hlength
  rw [cutAt, ← hlength, Nat.add_sub_cancel]

theorem take_cutAt_utf8 (segment : List Char) :
    (utf8 segment).take (cutAt rules (utf8 segment)) = utf8 (kept rules segment) := by
  rw [cutAt_utf8 hregular hlettered, ← utf8_kept_append_utf8_replaced rules segment,
    List.take_left]

theorem drop_cutAt_utf8 (segment : List Char) :
    (utf8 segment).drop (cutAt rules (utf8 segment)) = utf8 (replaced rules segment) := by
  rw [cutAt_utf8 hregular hlettered, ← utf8_kept_append_utf8_replaced rules segment,
    List.drop_left]

theorem inflectBytes_utf8 (segment : List Char) :
    inflectBytes rules (utf8 segment) = utf8 (inflectLast rules segment) := by
  by_cases hnil : segment = []
  · simp [inflectBytes, inflectLast, hnil]
  · rw [inflectBytes, if_neg (mt utf8_eq_nil_iff.mp hnil), take_cutAt_utf8 hregular hlettered,
      byteRule_utf8 hlettered, inflectLast, if_neg hnil, inflectSegment_eq_kept_append,
      utf8_append]

end Lettered

example : inflectBytes singularRules (utf8 "ÉNERGIES".toList) = utf8 "ÉNERGy".toList := by
  decide +kernel

/-! ## Names -/

/-- `head` is a name up to and including its last underscore, and `segment` is the rest of it. -/
structure SplitsAs (name head segment : String) : Prop where
  append_eq : head ++ segment = name
  ends_head : head = "" ∨ ∃ front, head = front ++ "_"
  not_mem_segment : '_' ∉ segment.toList

/-- Of a name that splits so, the rules drop a part of the segment that consists of letters, cut
between two characters, and keep the head. -/
structure CutsLetters (rules : List Rule) (name head segment : String) : Prop where
  drop_le : (byteRule rules (utf8 segment.toList)).drop ≤ segment.utf8ByteSize
  letters : ∀ b ∈ (utf8 segment.toList).drop (cutAt rules (utf8 segment.toList)),
    isLetterByte b = true
  boundary : (⟨cutAt rules (utf8 segment.toList)⟩ : String.Pos.Raw).IsValid segment
  inflect : ∃ inflected, SplitsAs (inflect rules name) head inflected ∧
    utf8 inflected.toList = inflectBytes rules (utf8 segment.toList)

theorem splitSegment_fst_ends (cs : List Char) :
    (splitSegment cs).1 = [] ∨ ∃ front, (splitSegment cs).1 = front ++ ['_'] := by
  induction cs with
  | nil => exact Or.inl rfl
  | cons c cs ih =>
    by_cases hc : (splitSegment cs).1.isEmpty && c ≠ '_'
    · simp only [splitSegment, hc, ↓reduceIte, true_or]
    · refine Or.inr ?_
      simp only [splitSegment, hc, Bool.false_eq_true, ↓reduceIte]
      rcases ih with hnil | ⟨front, hfront⟩
      · have hunderscore : c = '_' := by simpa [hnil] using hc
        exact ⟨[], by rw [hnil, hunderscore, List.nil_append]⟩
      · exact ⟨c :: front, by rw [hfront, List.cons_append]⟩

theorem splitsAs_splitSegment (name : String) : SplitsAs name
    (String.ofList (splitSegment name.toList).1) (String.ofList (splitSegment name.toList).2) where
  append_eq := by
    rw [← String.ofList_append, splitSegment_append, String.ofList_toList]
  ends_head := by
    rcases splitSegment_fst_ends name.toList with hnil | ⟨front, hfront⟩
    · exact Or.inl (by rw [hnil, String.ofList_nil])
    · exact Or.inr ⟨String.ofList front, by rw [hfront, String.ofList_append]⟩
  not_mem_segment := by
    rw [String.toList_ofList]
    exact underscore_not_mem_splitSegment name.toList

theorem cutsLetters {rules : List Rule} (hregular : Regular rules) (hlettered : Lettered rules)
    (name : String) : CutsLetters rules name (String.ofList (splitSegment name.toList).1)
      (String.ofList (lastSegment name)) where
  drop_le := by
    rw [← length_utf8, String.toList_ofList, ← length_utf8_replaced hregular hlettered,
      ← utf8_kept_append_utf8_replaced rules (lastSegment name), List.length_append]
    exact Nat.le_add_left _ _
  letters := by
    rw [String.toList_ofList, drop_cutAt_utf8 hregular hlettered]
    exact fun b hb => isLetterByte_of_mem_utf8_replaced hregular hlettered hb
  boundary := by
    rw [String.toList_ofList, cutAt_utf8 hregular hlettered]
    refine String.Pos.Raw.isValid_iff_exists_append.mpr
      ⟨String.ofList (kept rules (lastSegment name)),
        String.ofList (replaced rules (lastSegment name)), ?_, ?_⟩
    · rw [← String.ofList_append, kept_append_replaced]
    · rw [String.rawEndPos, ← length_utf8, String.toList_ofList]
  inflect := by
    have hsplit := splitsAs_splitSegment (inflect rules name)
    rw [splitSegment_inflect hregular] at hsplit
    refine ⟨_, hsplit, ?_⟩
    rw [String.toList_ofList, String.toList_ofList, inflectBytes_utf8 hregular hlettered]

theorem splitSegment_map_lowerAscii (cs : List Char) : splitSegment (cs.map lowerAscii) =
    ((splitSegment cs).1.map lowerAscii, (splitSegment cs).2.map lowerAscii) := by
  have hunderscore (c : Char) : lowerAscii c = '_' ↔ c = '_' :=
    lowerAscii_eq_iff (by decide +kernel)
  induction cs with
  | nil => rfl
  | cons c cs ih =>
    simp only [List.map_cons, splitSegment, ih, List.isEmpty_map, ne_eq, hunderscore]
    split <;> rfl

theorem foldCase_inflect {rules : List Rule} (hregular : Regular rules) (name : String) :
    foldCase (inflect rules name) = inflect rules (foldCase name) := by
  have hlast (segment : List Char) : (inflectLast rules segment).map lowerAscii =
      inflectLast rules (segment.map lowerAscii) := by
    by_cases hnil : segment = []
    · simp [inflectLast, hnil]
    · simp [inflectLast, hnil, map_lowerAscii_inflectSegment hregular]
  rw [eq_iff_splitSegment_eq, splitSegment_inflect hregular, lastSegment, toList_foldCase,
    toList_foldCase, splitSegment_map_lowerAscii, splitSegment_map_lowerAscii,
    splitSegment_inflect hregular, hlast, lastSegment]

theorem cutsLetters_and_foldCase (name : String) :
    (∃ head segment, SplitsAs name head segment ∧
      CutsLetters pluralRules name head segment ∧ CutsLetters singularRules name head segment) ∧
    foldCase (pluralize name) = pluralize (foldCase name) ∧
    foldCase (singularize name) = singularize (foldCase name) :=
  ⟨⟨_, _, splitsAs_splitSegment name, cutsLetters regular_pluralRules lettered_pluralRules name,
      cutsLetters regular_singularRules lettered_singularRules name⟩,
    foldCase_inflect regular_pluralRules name, foldCase_inflect regular_singularRules name⟩

end RecordSearch.Inflection
