import RecordSearch.Query.Term
import Mathlib.Data.List.TakeWhile

/-!
Where the words of a text lie in it. They are read off run by run (`words_of_skipBlanks_cons`), and the
text consists of them and of the blanks around them (`words_eq_of_spaced`, `spaced_words`). They are the
parts between blanks (`mem_words_iff`), so any part without blanks is part of a word
(`exists_mem_words_of_infix`). A trimmed word is what lies between the marks of a word
(`exists_cut_of_mem_valueWords`).
-/

namespace RecordSearch

namespace Text

/-! ## Run by run -/

theorem words_skipBlanks (cs : List Char) : words (skipBlanks cs) = words cs := by
  induction cs with
  | nil => rfl
  | cons c cs ih =>
    by_cases hc : isBlank c = true
    · rw [words_blank hc, ← ih]
      simp [skipBlanks, hc]
    · simp [skipBlanks, hc]

theorem words_of_not_blank {cs : List Char} (hne : cs ≠ []) (h : ∀ c ∈ cs, isBlank c = false) :
    words cs = [cs] := by
  have hlead : leadingWord cs = (cs, []) := by
    clear hne
    induction cs with
    | nil => rfl
    | cons c cs ih =>
      rw [List.forall_mem_cons] at h
      simp [leadingWord, ih h.2, h.1]
  simp [words, hlead, hne]

theorem words_of_skipBlanks_nil {cs : List Char} (h : skipBlanks cs = []) : words cs = [] := by
  rw [← words_skipBlanks, h, words_nil]

/-- The text is empty or starts with a blank. -/
def BlankFirst (cs : List Char) : Prop := cs = [] ∨ ∃ b rest, isBlank b = true ∧ cs = b :: rest

theorem BlankFirst.cons {b : Char} (hb : isBlank b = true) (rest : List Char) :
    BlankFirst (b :: rest) :=
  Or.inr ⟨b, rest, hb, rfl⟩

/-- So is what is left of a text after its first run. -/
theorem blankFirst_dropWhile (cs : List Char) : BlankFirst (cs.dropWhile (!isBlank ·)) := by
  cases h : cs.dropWhile (!isBlank ·) with
  | nil => exact Or.inl rfl
  | cons b rest =>
    have hb := List.head?_dropWhile_not (!isBlank ·) cs
    rw [h] at hb
    exact .cons (by simpa using hb) rest

/-- What stops at every blank does not look past a text that starts with one. -/
theorem dropWhile_append_blankFirst {stop : Char → Bool}
    (hstop : ∀ c, isBlank c = true → stop c = true) {rest : List Char} (hrest : BlankFirst rest)
    (cs : List Char) :
    (cs ++ rest).dropWhile (!stop ·) = cs.dropWhile (!stop ·) ++ rest := by
  induction cs with
  | nil =>
    rcases hrest with rfl | ⟨b, after, hb, rfl⟩
    · rfl
    · simp [hstop b hb]
  | cons c cs ih =>
    by_cases hc : stop c = true
    · simp [hc]
    · simpa [hc] using ih

theorem takeWhile_append_blankFirst {stop : Char → Bool}
    (hstop : ∀ c, isBlank c = true → stop c = true) {rest : List Char} (hrest : BlankFirst rest)
    (cs : List Char) : (cs ++ rest).takeWhile (!stop ·) = cs.takeWhile (!stop ·) := by
  induction cs with
  | nil =>
    rcases hrest with rfl | ⟨b, after, hb, rfl⟩
    · rfl
    · simp [hstop b hb]
  | cons c cs ih =>
    by_cases hc : stop c = true
    · simp [hc]
    · simpa [hc] using ih

theorem not_blank_of_mem_firstRun {cs : List Char} {c : Char} (h : c ∈ firstRun cs) :
    isBlank c = false := by
  have := List.all_eq_true.mp (List.all_takeWhile (p := (!isBlank ·)) (l := cs)) c h
  simpa using this

/-- A text is cut in two in front of a blank, too. -/
theorem words_append_blankFirst {rest : List Char} (hrest : BlankFirst rest) (cs : List Char) :
    words (cs ++ rest) = words cs ++ words rest := by
  rcases hrest with rfl | ⟨b, after, hb, rfl⟩
  · rw [words_nil, List.append_nil, List.append_nil]
  · rw [words_append_blank hb, words_blank hb]

theorem firstRun_of_not_blank {cs : List Char} (h : ∀ c ∈ cs, isBlank c = false) :
    firstRun cs = cs :=
  List.takeWhile_eq_self_iff.mpr fun c hc => by simp [h c hc]

theorem dropWhile_of_not_blank {cs : List Char} (h : ∀ c ∈ cs, isBlank c = false) :
    cs.dropWhile (!isBlank ·) = [] :=
  List.dropWhile_eq_nil_iff.mpr fun c hc => by simp [h c hc]

theorem words_of_skipBlanks_cons {cs rest : List Char} {c : Char} (h : skipBlanks cs = c :: rest) :
    words cs = firstRun (c :: rest) :: words ((c :: rest).dropWhile (!isBlank ·)) := by
  have hne : firstRun (c :: rest) ≠ [] := by
    simp [firstRun, not_blank_of_skipBlanks h]
  have hrun : words (firstRun (c :: rest)) = [firstRun (c :: rest)] :=
    words_of_not_blank hne fun _ => not_blank_of_mem_firstRun
  have hsplit : firstRun (c :: rest) ++ (c :: rest).dropWhile (!isBlank ·) = c :: rest :=
    List.takeWhile_append_dropWhile
  have hcut := words_append_blankFirst (blankFirst_dropWhile (c :: rest)) (firstRun (c :: rest))
  rw [← words_skipBlanks, h]
  rwa [hsplit, hrun, List.singleton_append] at hcut

/-! ## Parts with blanks between them -/

/-- A text of the parts, with blanks between them, and blanks or nothing before and after. -/
inductive Spaced : List (List Char) → List Char → Prop
  | nil {gap : List Char} (hgap : ∀ c ∈ gap, isBlank c = true) : Spaced [] gap
  | cons {gap part rest : List Char} {parts : List (List Char)}
      (hgap : ∀ c ∈ gap, isBlank c = true) (hcut : BlankFirst rest) (hrest : Spaced parts rest) :
      Spaced (part :: parts) (gap ++ part ++ rest)

theorem Spaced.blank_cons {b : Char} (hb : isBlank b = true) {parts : List (List Char)}
    {cs : List Char} (h : Spaced parts cs) : Spaced parts (b :: cs) := by
  cases h with
  | nil hgap => exact .nil (List.forall_mem_cons.mpr ⟨hb, hgap⟩)
  | cons hgap hcut hrest => exact .cons (List.forall_mem_cons.mpr ⟨hb, hgap⟩) hcut hrest

theorem spaced_intercalate {b : Char} (hb : isBlank b = true) (parts : List (List Char)) :
    Spaced parts ([b].intercalate parts) := by
  have hgap : ∀ c ∈ ([] : List Char), isBlank c = true := List.forall_mem_nil _
  induction parts with
  | nil => exact .nil hgap
  | cons part parts ih =>
    cases parts with
    | nil =>
      have hsingle : Spaced [part] ([] ++ part ++ []) := .cons hgap (Or.inl rfl) (.nil hgap)
      simpa using hsingle
    | cons other parts =>
      rw [List.intercalate_cons_cons, List.append_assoc, List.singleton_append]
      exact .cons hgap (.cons hb _) (ih.blank_cons hb)

theorem words_eq_of_spaced {ws : List (List Char)} {cs : List Char} (h : Spaced ws cs)
    (hws : ∀ w ∈ ws, w ≠ [] ∧ ∀ c ∈ w, isBlank c = false) : words cs = ws := by
  induction h with
  | nil hgap => exact words_of_skipBlanks_nil (List.dropWhile_eq_nil_iff.mpr hgap)
  | @cons gap w rest ws hgap hcut hrest ih =>
    obtain ⟨⟨hne, hw⟩, hothers⟩ := List.forall_mem_cons.mp hws
    have hskip : skipBlanks (gap ++ w) = skipBlanks w := List.dropWhile_append_of_pos hgap
    have hword : words (gap ++ w) = [w] := by
      rw [← words_skipBlanks, hskip, words_skipBlanks, words_of_not_blank hne hw]
    rw [words_append_blankFirst hcut, hword, ih hothers, List.singleton_append]

/-- Every text is made of its words in this way. -/
theorem spaced_words (cs : List Char) : Spaced (words cs) cs := by
  cases hskip : skipBlanks cs with
  | nil =>
    rw [words_of_skipBlanks_nil hskip]
    exact .nil (List.dropWhile_eq_nil_iff.mp hskip)
  | cons c rest =>
    have hgap : ∀ d ∈ cs.takeWhile isBlank, isBlank d = true :=
      List.all_eq_true.mp List.all_takeWhile
    have hsplit : cs.takeWhile isBlank ++ firstRun (c :: rest) ++
        (c :: rest).dropWhile (!isBlank ·) = cs := by
      rw [List.append_assoc, firstRun, List.takeWhile_append_dropWhile, ← hskip, skipBlanks,
        List.takeWhile_append_dropWhile]
    rw [words_of_skipBlanks_cons hskip, ← hsplit]
    exact .cons hgap (blankFirst_dropWhile (c :: rest)) (spaced_words _)
termination_by cs.length
decreasing_by
  have hlen := skipBlanks_length_le cs
  have hafter := (List.dropWhile_suffix (!isBlank ·) (l := rest)).length_le
  rw [hskip, List.length_cons] at hlen
  simp only [List.dropWhile_cons, not_blank_of_skipBlanks hskip, Bool.not_false, ↓reduceIte]
  omega

theorem Spaced.blank_or_mem {parts : List (List Char)} {cs : List Char} (h : Spaced parts cs)
    {c : Char} (hc : c ∈ cs) : isBlank c = true ∨ ∃ part ∈ parts, c ∈ part := by
  induction h with
  | nil hgap => exact .inl (hgap c hc)
  | cons hgap hcut hrest ih =>
    rw [List.mem_append, List.mem_append] at hc
    rcases hc with (hc | hc) | hc
    · exact .inl (hgap c hc)
    · exact .inr ⟨_, List.mem_cons_self .., hc⟩
    · rcases ih hc with hblank | ⟨part, hpart, hc⟩
      · exact .inl hblank
      · exact .inr ⟨part, List.mem_cons_of_mem _ hpart, hc⟩

/-! ## Character by character -/

section

variable {f : Char → Char} (hf : ∀ c, isBlank (f c) = isBlank c)

include hf

private theorem leadingWord_map (cs : List Char) :
    leadingWord (cs.map f) =
      ((leadingWord cs).1.map f, (leadingWord cs).2.map (List.map f)) := by
  induction cs with
  | nil => rfl
  | cons c cs ih =>
    simp only [List.map_cons, leadingWord, ih, hf, List.isEmpty_map]
    by_cases hc : isBlank c = true
    · by_cases hw : (leadingWord cs).1 = [] <;> simp [hc, hw]
    · simp [hc]

/-- Words are kept by what keeps blanks and makes none. -/
theorem words_map (cs : List Char) : words (cs.map f) = (words cs).map (List.map f) := by
  simp only [words, leadingWord_map hf, List.isEmpty_map]
  by_cases hw : (leadingWord cs).1 = [] <;> simp [hw]

end

/-! ## Words in their place -/

private theorem leadingWord_cut (cs : List Char) :
    (∃ after, cs = (leadingWord cs).1 ++ after ∧ BlankFirst after) ∧
      ∀ w ∈ (leadingWord cs).2, ∃ before b after, isBlank b = true ∧
        cs = before ++ b :: (w ++ after) ∧ BlankFirst after := by
  induction cs with
  | nil => exact ⟨⟨[], rfl, Or.inl rfl⟩, by simp [leadingWord]⟩
  | cons c cs ih =>
    obtain ⟨⟨rest, hcs, hrest⟩, hothers⟩ := ih
    have hothers' : ∀ w ∈ (leadingWord cs).2, ∃ before b after, isBlank b = true ∧
        c :: cs = before ++ b :: (w ++ after) ∧ BlankFirst after := by
      intro w hw
      obtain ⟨before, b, after, hb, heq, hafter⟩ := hothers w hw
      exact ⟨c :: before, b, after, hb, by rw [List.cons_append, ← heq], hafter⟩
    by_cases hc : isBlank c = true
    · have hword : ∃ before b after, isBlank b = true ∧
          c :: cs = before ++ b :: ((leadingWord cs).1 ++ after) ∧ BlankFirst after :=
        ⟨[], c, rest, hc, by rw [List.nil_append, ← hcs], hrest⟩
      refine ⟨⟨c :: cs, by simp [leadingWord, hc], .cons hc cs⟩, fun w hw => ?_⟩
      by_cases hne : (leadingWord cs).1 = []
      · exact hothers' w (by simpa [leadingWord, hc, hne] using hw)
      · rcases (by simpa [leadingWord, hc, hne] using hw : w = _ ∨ w ∈ _) with rfl | hw
        · exact hword
        · exact hothers' w hw
    · refine ⟨⟨rest, ?_, hrest⟩, fun w hw => hothers' w (by simpa [leadingWord, hc] using hw)⟩
      simpa [leadingWord, hc] using hcs

private theorem exists_cut_of_mem_words {cs w : List Char} (h : w ∈ words cs) :
    ∃ before after, cs = before ++ w ++ after ∧ BlankFirst before.reverse ∧ BlankFirst after := by
  obtain ⟨⟨rest, hcs, hrest⟩, hothers⟩ := leadingWord_cut cs
  have hother (hw : w ∈ (leadingWord cs).2) : ∃ before after, cs = before ++ w ++ after ∧
      BlankFirst before.reverse ∧ BlankFirst after := by
    obtain ⟨before, b, after, hb, heq, hafter⟩ := hothers w hw
    refine ⟨before ++ [b], after, by simp [heq], ?_, hafter⟩
    rw [List.reverse_append]
    exact .cons hb _
  by_cases hne : (leadingWord cs).1 = []
  · exact hother (by simpa [words, hne] using h)
  · rcases (by simpa [words, hne] using h : w = _ ∨ w ∈ _) with rfl | hw
    · exact ⟨[], rest, by simpa using hcs, Or.inl rfl, hrest⟩
    · exact hother hw

private theorem mem_words_of_cut {before w after : List Char} (hne : w ≠ [])
    (hw : ∀ c ∈ w, isBlank c = false) (hbefore : BlankFirst before.reverse)
    (hafter : BlankFirst after) : w ∈ words (before ++ w ++ after) := by
  have hself : w ∈ words w := by simp [words_of_not_blank hne hw]
  have hright : w ∈ words (w ++ after) := by
    rw [words_append_blankFirst hafter]
    exact List.mem_append_left _ hself
  rw [List.append_assoc]
  rcases hbefore with hnil | ⟨b, rest, hb, hcons⟩
  · rwa [List.reverse_eq_nil_iff.mp hnil]
  · rw [List.reverse_eq_cons_iff.mp hcons, List.append_assoc, List.singleton_append,
      words_append_blank hb]
    exact List.mem_append_right _ hright

/-- The words of a text are the parts of it that hold no blank and that only blanks, or its ends,
are next to. -/
theorem mem_words_iff {cs w : List Char} :
    w ∈ words cs ↔ w ≠ [] ∧ (∀ c ∈ w, isBlank c = false) ∧
      ∃ before after, cs = before ++ w ++ after ∧ BlankFirst before.reverse ∧ BlankFirst after := by
  constructor
  · exact fun h => ⟨ne_nil_of_mem_words h, not_blank_of_mem_words h, exists_cut_of_mem_words h⟩
  · rintro ⟨hne, hw, before, after, rfl, hbefore, hafter⟩
    exact mem_words_of_cut hne hw hbefore hafter

theorem infix_of_mem_words {cs w : List Char} (h : w ∈ words cs) : w <:+: cs := by
  obtain ⟨-, -, before, after, rfl, -⟩ := mem_words_iff.mp h
  exact ⟨before, after, rfl⟩

theorem mem_of_mem_words {cs w : List Char} {c : Char} (hw : w ∈ words cs) (hc : c ∈ w) :
    c ∈ cs :=
  (infix_of_mem_words hw).subset hc

/-- The run that ends a text, with what stands before it. -/
theorem exists_last_run (cs : List Char) :
    ∃ before run, cs = before ++ run ∧ (∀ c ∈ run, isBlank c = false) ∧
      BlankFirst before.reverse := by
  refine ⟨(cs.reverse.dropWhile (!isBlank ·)).reverse, (firstRun cs.reverse).reverse, ?_, ?_, ?_⟩
  · rw [← List.reverse_append, firstRun, List.takeWhile_append_dropWhile, List.reverse_reverse]
  · exact fun c hc => not_blank_of_mem_firstRun (List.mem_reverse.mp hc)
  · rw [List.reverse_reverse]
    exact blankFirst_dropWhile _

/-- A part without blanks does not reach over the end of a word. -/
theorem exists_mem_words_of_infix {cs xs : List Char} (hne : xs ≠ [])
    (hxs : ∀ c ∈ xs, isBlank c = false) (h : xs <:+: cs) : ∃ w ∈ words cs, xs <:+: w := by
  obtain ⟨as, bs, rfl⟩ := h
  obtain ⟨before, left, rfl, hleft, hbefore⟩ := exists_last_run as
  have hrun : ∀ c ∈ left ++ xs ++ firstRun bs, isBlank c = false := by
    intro c hc
    simp only [List.mem_append] at hc
    rcases hc with (hc | hc) | hc
    · exact hleft c hc
    · exact hxs c hc
    · exact not_blank_of_mem_firstRun hc
  have hmem : left ++ xs ++ firstRun bs ∈
      words (before ++ (left ++ xs ++ firstRun bs) ++ bs.dropWhile (!isBlank ·)) :=
    mem_words_iff.mpr ⟨by simp [hne], hrun, before, _, rfl, hbefore, blankFirst_dropWhile bs⟩
  have htext : before ++ (left ++ xs ++ firstRun bs) ++ bs.dropWhile (!isBlank ·) =
      before ++ left ++ xs ++ bs := by
    simp only [List.append_assoc, firstRun, List.takeWhile_append_dropWhile]
  exact ⟨left ++ xs ++ firstRun bs, htext ▸ hmem, left, firstRun bs, rfl⟩

end Text

/-! ## Trimmed words -/

namespace Query.Term

open RecordSearch.Text

theorem exists_cut_trimWord (cs : List Char) :
    ∃ left right, cs = left ++ trimWord cs ++ right ∧ (∀ c ∈ left, isWordChar c = false) ∧
      ∀ c ∈ right, isWordChar c = false := by
  have hdropped {ds : List Char} {c : Char} (hc : c ∈ ds.takeWhile (!isWordChar ·)) :
      isWordChar c = false := by
    simpa using List.all_eq_true.mp List.all_takeWhile c hc
  let tail := (cs.dropWhile (!isWordChar ·)).reverse
  refine ⟨cs.takeWhile (!isWordChar ·), (tail.takeWhile (!isWordChar ·)).reverse, ?_,
    fun c hc => hdropped hc, fun c hc => hdropped (List.mem_reverse.mp hc)⟩
  rw [trimWord, List.append_assoc, ← List.reverse_append, List.takeWhile_append_dropWhile,
    List.reverse_reverse, List.takeWhile_append_dropWhile]

/-- A trimmed word stands between runs that hold nothing of a word. -/
theorem exists_cut_of_mem_valueWords {cs w : List Char} (h : w ∈ valueWords cs) :
    ∃ before left right after, cs = before ++ left ++ w ++ (right ++ after) ∧
      (∀ c ∈ left, isWordChar c = false) ∧ (∀ c ∈ right, isWordChar c = false) ∧
      BlankFirst before.reverse ∧ BlankFirst after := by
  obtain ⟨v, hv, rfl⟩ := List.mem_map.mp (List.mem_filter.mp h).1
  obtain ⟨-, -, before, after, hcs, hbefore, hafter⟩ := mem_words_iff.mp hv
  obtain ⟨left, right, htrim, hleft, hright⟩ := exists_cut_trimWord v
  refine ⟨before, left, right, after, ?_, hleft, hright, hbefore, hafter⟩
  calc cs
    _ = before ++ v ++ after := hcs
    _ = before ++ (left ++ trimWord v ++ right) ++ after := by rw [← htrim]
    _ = _ := by simp only [List.append_assoc]

theorem trimWord_map {f : Char → Char} (hf : ∀ c, isWordChar (f c) = isWordChar c)
    (cs : List Char) : trimWord (cs.map f) = (trimWord cs).map f := by
  have hgo : (fun c => !isWordChar c) ∘ f = fun c => !isWordChar c := funext fun c => by simp [hf]
  simp only [trimWord, List.dropWhile_map, hgo, ← List.map_reverse]

theorem valueWords_map {f : Char → Char} (hblank : ∀ c, isBlank (f c) = isBlank c)
    (hword : ∀ c, isWordChar (f c) = isWordChar c) (cs : List Char) :
    valueWords (cs.map f) = (valueWords cs).map (List.map f) := by
  have htrim : trimWord ∘ List.map f = List.map f ∘ trimWord := funext (trimWord_map hword)
  have hempty : (fun w : List Char => !w.isEmpty) ∘ List.map f = fun w => !w.isEmpty :=
    funext fun w => by simp
  simp only [valueWords, words_map hblank, List.map_map, htrim]
  rw [← List.map_map, List.filter_map, hempty]

theorem infix_of_mem_valueWords {cs w : List Char} (h : w ∈ valueWords cs) : w <:+: cs := by
  obtain ⟨before, left, right, after, rfl, -⟩ := exists_cut_of_mem_valueWords h
  exact ⟨before ++ left, right ++ after, rfl⟩

end Query.Term

end RecordSearch
