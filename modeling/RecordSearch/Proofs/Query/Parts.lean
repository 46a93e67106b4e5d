import RecordSearch.Proofs.Query.Reading

/-!
Queries in parts. Reading looks no further than the next blank, unless a quote is open: what is read
of a text without quotes is the same whatever follows it after a blank (`readTerm_append`).

* `scanChars_append`: the terms of two parts are those of the first, then those of the second;
* `compile_append`: the same of their patterns.
-/

namespace RecordSearch.Query

open RecordSearch.Text

section

variable {rest : List Char} (hrest : BlankFirst rest)

include hrest

/-! ## Cutting -/

theorem startsBlank_append (cs : List Char) : startsBlank (cs ++ rest) = startsBlank cs := by
  cases cs with
  | nil =>
    rcases hrest with rfl | ⟨b, after, hb, rfl⟩
    · rfl
    · exact hb
  | cons c cs => rfl

theorem startsQuote_append (cs : List Char) : startsQuote (cs ++ rest) = startsQuote cs := by
  cases cs with
  | nil =>
    rcases hrest with rfl | ⟨b, after, hb, rfl⟩
    · rfl
    · cases hquote : isQuote b with
      | false => exact hquote
      | true =>
        rw [not_blank_of_isQuote hquote] at hb
        cases hb
  | cons c cs => rfl

theorem cutAtColon?_append_right {stop : Char → Bool}
    (hstop : ∀ c, isBlank c = true → stop c = true) (cs : List Char) :
    cutAtColon? stop (cs ++ rest) =
      (cutAtColon? stop cs).map fun (a, after) => (a, after ++ rest) := by
  rw [cutAtColon?, cutAtColon?, dropWhile_append_blankFirst hstop hrest,
    takeWhile_append_blankFirst hstop hrest]
  cases cs.dropWhile (!stop ·) with
  | nil =>
    rcases hrest with rfl | ⟨b, after, hb, rfl⟩
    · rfl
    · by_cases hcolon : b = ':'
      · subst hcolon
        cases hb
      · simp [hcolon]
  | cons d ds =>
    by_cases hcolon : d = ':'
    · simp [hcolon]
    · simp [hcolon]

theorem cutFieldName?_append (cs : List Char) :
    cutFieldName? (cs ++ rest) =
      (cutFieldName? cs).map fun (typed, after) => (typed, after ++ rest) := by
  have hstop : ∀ c, isBlank c = true → endsFieldName c = true := fun c hc => by
    simp [endsFieldName, hc]
  rw [cutFieldName?, cutFieldName?, cutAtColon?_append_right hrest hstop]
  cases cutAtColon? endsFieldName cs with
  | none => rfl
  | some p =>
    simp only [Option.map_some, startsBlank_append hrest]
    split <;> rfl

theorem cutKey?_append (cs : List Char) :
    cutKey? (cs ++ rest) = (cutKey? cs).map fun (key, after) => (key, after ++ rest) := by
  have hstop : ∀ c, isBlank c = true → endsKey c = true := fun c hc => by simp [endsKey, hc]
  rw [cutKey?, cutKey?, cutAtColon?_append_right hrest hstop]
  cases cutAtColon? endsKey cs with
  | none => rfl
  | some p =>
    simp only [Option.map_some]
    split <;> rfl

/-! ## Reading -/

theorem readKeys_append (cs : List Char) :
    readKeys (cs ++ rest) = ((readKeys cs).1, (readKeys cs).2 ++ rest) := by
  fun_induction readKeys cs with
  | case1 cs hcut =>
    have hcut' : cutKey? (cs ++ rest) = none := by rw [cutKey?_append hrest, hcut, Option.map_none]
    rw [readKeys_of_none hcut']
  | case2 cs key after hcut keys after' heq ih =>
    have hcut' : cutKey? (cs ++ rest) = some (key, after ++ rest) := by
      rw [cutKey?_append hrest, hcut, Option.map_some]
    rw [readKeys_of_some hcut', ih, heq]

theorem readValue_append {cs : List Char} (hquote : startsQuote cs = false) :
    readValue (cs ++ rest) =
      ((readValue cs).1, (readValue cs).2.1, (readValue cs).2.2 ++ rest) := by
  have hblank : ∀ c, isBlank c = true → isBlank c = true := fun _ => id
  rw [readValue_of_not_startsQuote hquote,
    readValue_of_not_startsQuote ((startsQuote_append hrest cs).trans hquote), firstRun, firstRun,
    takeWhile_append_blankFirst hblank hrest, dropWhile_append_blankFirst hblank hrest]

section

variable {cs : List Char} (hquote : ∀ c ∈ cs, isQuote c = false)

include hquote

theorem readFieldTerm?_append (lookup : FieldLookup) :
    readFieldTerm? lookup (cs ++ rest) =
      (readFieldTerm? lookup cs).map fun (t, after) => (t, after ++ rest) := by
  rw [readFieldTerm?, readFieldTerm?, cutFieldName?_append hrest]
  cases hcut : cutFieldName? cs with
  | none => rfl
  | some p =>
    obtain ⟨typed, after⟩ := p
    have hcs := (eq_of_cutAtColon? (cutAtColon?_of_cutFieldName? hcut).1).1
    have hkeys : startsQuote (readKeys after).2 = false := by
      refine startsQuote_eq_false fun c hc => hquote c ?_
      rw [hcs, (eq_readKeys after).1]
      simp [hc]
    simp only [Option.map_some]
    cases lookup (String.ofList typed) with
    | none => rfl
    | some field =>
      simp only [readKeys_append hrest, readValue_append hrest hkeys, Option.map_some]

theorem readTerm_append (lookup : FieldLookup) :
    readTerm lookup (cs ++ rest) =
      ((readTerm lookup cs).1, (readTerm lookup cs).2 ++ rest) := by
  rw [readTerm, readTerm, readFieldTerm?_append hrest hquote]
  cases readFieldTerm? lookup cs with
  | none =>
    simp only [Option.map_none, Option.getD_none, readBareTerm,
      readValue_append hrest (startsQuote_eq_false hquote)]
  | some p => rfl

/-- The terms of a text without quotes do not depend on what follows it after a blank. -/
theorem scanChars_append (lookup : FieldLookup) :
    scanChars lookup (cs ++ rest) = scanChars lookup cs ++ scanChars lookup rest := by
  fun_induction scanChars lookup cs with
  | case1 cs hnil =>
    have hblank : ∀ c ∈ cs, isBlank c = true := List.dropWhile_eq_nil_iff.mp hnil
    exact scanChars_append_blanks hblank rest
  | case2 cs c after hskip r ih =>
    have hsub : ∀ d ∈ c :: after, isQuote d = false := fun d hd => by
      rw [← hskip] at hd
      exact hquote d ((List.dropWhile_suffix _).subset hd)
    obtain ⟨u, -, hsplit, -⟩ := exists_slice_readTerm lookup (not_blank_of_skipBlanks hskip) after
    have hleft : ∀ d ∈ r.2, isQuote d = false := fun d hd => by
      refine hsub d ?_
      rw [hsplit]
      exact List.mem_append_right u hd
    have hskip' : skipBlanks (cs ++ rest) = c :: (after ++ rest) := by
      rw [skipBlanks, List.dropWhile_append, ← skipBlanks, hskip]
      rfl
    rw [scanChars_of_skipBlanks hskip', ← List.cons_append, readTerm_append hrest hsub,
      ih hleft, List.cons_append]

end

end

/-! ## Queries -/

/-- A blank separates two queries, if it cannot stand in a phrase of the first. -/
theorem compile_append (lookup : FieldLookup) {left gap right : String}
    (hleft : ∀ c ∈ left.toList, isQuote c = false) (hne : gap ≠ "")
    (hgap : ∀ c ∈ gap.toList, isBlank c = true) :
    compile lookup (left ++ gap ++ right) = compile lookup left ++ compile lookup right := by
  have hrest : BlankFirst (gap.toList ++ right.toList) := by
    cases h : gap.toList with
    | nil => exact absurd (String.toList_eq_nil_iff.mp h) hne
    | cons b after => exact .cons (hgap b (by simp [h])) (after ++ right.toList)
  rw [compile, scan, String.toList_append, String.toList_append, List.append_assoc,
    scanChars_append hrest hleft, scanChars_append_blanks hgap, List.flatMap_append]
  rfl

end RecordSearch.Query
