import RecordSearch.Text.CharSet

/-!
White space and what is cut at it: a text without its outer blanks, the run of other characters it
starts with, and its words. `words_append_blank` says that a blank cuts a text in two; no word is
empty or holds a blank (`ne_nil_of_mem_words`, `not_blank_of_mem_words`).
-/

namespace RecordSearch.Text

def blankRanges : List (Nat × Nat) :=
  [(0x9, 0xD), (0x20, 0x20), (0x85, 0x85), (0xA0, 0xA0), (0x1680, 0x1680), (0x2000, 0x200A),
   (0x2028, 0x2029), (0x202F, 0x202F), (0x205F, 0x205F), (0x3000, 0x3000)]

def isBlank (c : Char) : Bool := inRanges c blankRanges

theorem isBlank_space : isBlank ' ' = true := by decide

/-! ## The first run of a text -/

/-- The characters before the first blank. -/
def firstRun (cs : List Char) : List Char := cs.takeWhile (!isBlank ·)

def skipBlanks (cs : List Char) : List Char := cs.dropWhile isBlank

theorem skipBlanks_length_le (cs : List Char) : (skipBlanks cs).length ≤ cs.length :=
  (List.dropWhile_suffix isBlank).length_le

theorem not_blank_of_skipBlanks {cs rest : List Char} {c : Char}
    (h : skipBlanks cs = c :: rest) : isBlank c = false := by
  induction cs with
  | nil => simp [skipBlanks] at h
  | cons d ds ih =>
    by_cases hd : isBlank d = true
    · exact ih (by simpa [skipBlanks, hd] using h)
    · have : d = c := by simp [skipBlanks, hd] at h; exact h.1
      simpa [this] using hd

/-! ## Words -/

/-- The word a text starts with, empty if it starts with a blank, and the words after it. -/
def leadingWord : List Char → List Char × List (List Char)
  | [] => ([], [])
  | c :: cs =>
    let (word, others) := leadingWord cs
    if isBlank c then ([], if word.isEmpty then others else word :: others)
    else (c :: word, others)

/-- The maximal runs of characters that are not blank. -/
def words (cs : List Char) : List (List Char) :=
  let (word, others) := leadingWord cs
  if word.isEmpty then others else word :: others

@[simp] theorem words_nil : words [] = [] := rfl

theorem words_blank {c : Char} (h : isBlank c = true) (cs : List Char) :
    words (c :: cs) = words cs := by
  simp [words, leadingWord, h]

private theorem leadingWord_append_blank {c : Char} (h : isBlank c = true) (as bs : List Char) :
    leadingWord (as ++ c :: bs) = ((leadingWord as).1, (leadingWord as).2 ++ words bs) := by
  induction as with
  | nil => simp [leadingWord, h, words]
  | cons a as ih =>
    simp only [List.cons_append, leadingWord, ih]
    by_cases ha : isBlank a = true
    · by_cases hw : (leadingWord as).1 = [] <;> simp [ha, hw]
    · simp [ha]

/-- A blank cuts a text in two. -/
theorem words_append_blank {c : Char} (h : isBlank c = true) (as bs : List Char) :
    words (as ++ c :: bs) = words as ++ words bs := by
  simp only [words, leadingWord_append_blank h]
  by_cases hw : (leadingWord as).1 = [] <;> simp [hw]

private theorem leadingWord_clean (cs : List Char) :
    (∀ c ∈ (leadingWord cs).1, isBlank c = false) ∧
      ∀ w ∈ (leadingWord cs).2, w ≠ [] ∧ ∀ c ∈ w, isBlank c = false := by
  induction cs with
  | nil => simp [leadingWord]
  | cons c cs ih =>
    by_cases hc : isBlank c = true
    · by_cases hw : (leadingWord cs).1 = []
      · simp only [leadingWord, hc, ↓reduceIte, hw, List.isEmpty_nil]
        exact ⟨by simp, ih.2⟩
      · simp only [leadingWord, hc, ↓reduceIte, List.isEmpty_iff, hw, List.not_mem_nil,
          false_implies, implies_true, List.mem_cons, forall_eq_or_imp, true_and]
        exact ⟨⟨hw, ih.1⟩, ih.2⟩
    · simp only [leadingWord, hc, Bool.false_eq_true, ↓reduceIte, List.mem_cons,
        forall_eq_or_imp]
      exact ⟨⟨trivial, ih.1⟩, ih.2⟩

theorem ne_nil_of_mem_words {cs w : List Char} (h : w ∈ words cs) : w ≠ [] := by
  by_cases hw : (leadingWord cs).1 = []
  · exact ((leadingWord_clean cs).2 w (by simpa [words, hw] using h)).1
  · rcases (by simpa [words, hw] using h : w = _ ∨ w ∈ _) with rfl | h
    · exact hw
    · exact ((leadingWord_clean cs).2 w h).1

theorem not_blank_of_mem_words {cs w : List Char} (h : w ∈ words cs) :
    ∀ c ∈ w, isBlank c = false := by
  by_cases hw : (leadingWord cs).1 = []
  · exact ((leadingWord_clean cs).2 w (by simpa [words, hw] using h)).2
  · rcases (by simpa [words, hw] using h : w = _ ∨ w ∈ _) with rfl | h
    · exact (leadingWord_clean cs).1
    · exact ((leadingWord_clean cs).2 w h).2

end RecordSearch.Text
