import RecordSearch.Text.Blank
import RecordSearch.Text.Alphanumeric

/-!
The terms of a query and the words each of them requires.
-/

namespace RecordSearch.Query

open RecordSearch.Text

/-- A value to look for, in quotes or not, under a field if the term names one, and then under the
keys between the field and the value. -/
structure Term where
  field : Option String
  keys : List String
  value : String
  phrase : Bool
  deriving DecidableEq, Repr

namespace Term

/-- Drops what is neither letter, digit nor underscore from both ends. -/
def trimWord (cs : List Char) : List Char :=
  ((cs.dropWhile (!isWordChar ·)).reverse.dropWhile (!isWordChar ·)).reverse

def valueWords (cs : List Char) : List (List Char) :=
  ((Text.words cs).map trimWord).filter (!·.isEmpty)

/-- The keys as they are, then the words of the value without their outer punctuation. -/
def words (t : Term) : List String := t.keys ++ (valueWords t.value.toList).map String.ofList

theorem ne_nil_of_mem_valueWords {cs w : List Char} (h : w ∈ valueWords cs) : w ≠ [] := by
  simpa using (List.mem_filter.mp h).2

theorem trimWord_subset (cs : List Char) : ∀ c ∈ trimWord cs, c ∈ cs := by
  intro c hc
  have h1 := (List.dropWhile_suffix _).subset (List.mem_reverse.mp hc)
  exact (List.dropWhile_suffix _).subset (List.mem_reverse.mp h1)

theorem not_blank_of_mem_valueWords {cs w : List Char} (h : w ∈ valueWords cs) :
    ∀ c ∈ w, isBlank c = false := by
  obtain ⟨v, hv, rfl⟩ := List.mem_map.mp (List.mem_filter.mp h).1
  exact fun c hc => not_blank_of_mem_words hv c (trimWord_subset v c hc)

end Term

end RecordSearch.Query
