import RecordSearch.Proofs.Query.Patterns

/-!
A query that is typed further. A character that is no blank, colon or quote ends nothing and opens
nothing: appended to a query, it is left over by every reader, or it lengthens the run that reaches
the end.

* `readTerm_concat`: what one more character does to the term that is read (`Lengthens`);
* `scanChars_concat`: it is added to the value of the last term or is a new term (`Typed`), unless
  the query ends in a colon, after which a name or a key could begin to count;
* `Typed.covers`: what the terms required before is part of what they require then.
-/

namespace RecordSearch.Query

open RecordSearch.Text

/-! ## Cutting -/

section Cutting

variable {x : Char}

/-- A run that ends inside a text does not depend on what follows. -/
theorem takeWhile_concat {p : Char → Bool} {cs : List Char} (h : cs.dropWhile p ≠ []) :
    (cs ++ [x]).takeWhile p = cs.takeWhile p := by
  induction cs with
  | nil => exact absurd rfl h
  | cons c cs ih =>
    by_cases hc : p c = true
    · simp only [List.dropWhile_cons, hc, ↓reduceIte] at h
      simp only [List.cons_append, List.takeWhile_cons, hc, ↓reduceIte, ih h]
    · simp [hc]

theorem cutAtColon?_concat {stop : Char → Bool} (hx : stop x = false) (cs : List Char) :
    cutAtColon? stop (cs ++ [x]) =
      (cutAtColon? stop cs).map fun (a, after) => (a, after ++ [x]) := by
  rw [cutAtColon?, cutAtColon?, List.dropWhile_append]
  cases hdrop : cs.dropWhile (!stop ·) with
  | nil => simp [hx]
  | cons d ds =>
    rw [takeWhile_concat (by simp [hdrop])]
    by_cases hd : d = ':'
    · simp [hd]
    · simp [hd]

theorem cutKey?_concat (hx : endsKey x = false) (cs : List Char) :
    cutKey? (cs ++ [x]) = (cutKey? cs).map fun (key, after) => (key, after ++ [x]) := by
  rw [cutKey?, cutKey?, cutAtColon?_concat hx]
  cases cutAtColon? endsKey cs with
  | none => rfl
  | some p =>
    simp only [Option.map_some]
    split <;> rfl

/-- A colon at the end of the text names no field, but one before the typed character may. -/
theorem cutFieldName?_concat (hx : endsFieldName x = false) {cs : List Char}
    (hcs : cs.getLast? ≠ some ':') :
    cutFieldName? (cs ++ [x]) =
      (cutFieldName? cs).map fun (typed, after) => (typed, after ++ [x]) := by
  rw [cutFieldName?, cutFieldName?, cutAtColon?_concat hx]
  cases hcut : cutAtColon? endsFieldName cs with
  | none => rfl
  | some p =>
    obtain ⟨typed, after⟩ := p
    cases after with
    | nil =>
      rw [(eq_of_cutAtColon? hcut).1, List.getLast?_concat] at hcs
      exact absurd rfl hcs
    | cons d ds =>
      by_cases hc : typed.isEmpty || startsQuote typed || isBlank d
      · simp [startsBlank, hc]
      · simp [startsBlank, hc]

theorem splitAtFirst_concat {q : Char} (hx : x ≠ q) (cs : List Char) :
    splitAtFirst q (cs ++ [x]) = (splitAtFirst q cs).map fun (a, after) => (a, after ++ [x]) := by
  induction cs with
  | nil => simp [splitAtFirst, hx]
  | cons c cs ih =>
    by_cases hc : c = q
    · simp [splitAtFirst, hc]
    · simp only [List.cons_append, splitAtFirst, hc, ↓reduceIte, ih, Option.map_map]
      rfl

end Cutting

/-! ## Reading -/

section Reading

variable {x : Char} (hx : endsKey x = false)

include hx

theorem readKeys_concat (cs : List Char) :
    readKeys (cs ++ [x]) = ((readKeys cs).1, (readKeys cs).2 ++ [x]) := by
  fun_induction readKeys cs with
  | case1 cs hcut =>
    have hcut' : cutKey? (cs ++ [x]) = none := by rw [cutKey?_concat hx, hcut, Option.map_none]
    rw [readKeys_of_none hcut']
  | case2 cs key after hcut keys after' heq ih =>
    have hcut' : cutKey? (cs ++ [x]) = some (key, after ++ [x]) := by
      rw [cutKey?_concat hx, hcut, Option.map_some]
    rw [readKeys_of_some hcut', ih, heq]

theorem readPhrase?_concat (cs : List Char) :
    readPhrase? (cs ++ [x]) = (readPhrase? cs).map fun (p, after) => (p, after ++ [x]) := by
  have hquote : isQuote x = false := (endsKey_eq_false_iff.mp hx).2.2
  cases cs with
  | nil => simp [readPhrase?, hquote]
  | cons q body =>
    by_cases hq : isQuote q = true
    · have hne : x ≠ q := by
        rintro rfl
        rw [hquote] at hq
        cases hq
      rw [List.cons_append, readPhrase?, readPhrase?, if_pos hq, if_pos hq, splitAtFirst_concat hne]
      rcases splitAtFirst q body with _ | ⟨_ | ⟨c, p⟩, after⟩ <;> rfl
    · simp [readPhrase?, hq]

/-- Only a run that reaches the end of the text takes the character in. -/
theorem readValue_concat (cs : List Char) :
    readValue (cs ++ [x]) =
      ((readValue cs).1, (readValue cs).2.1, (readValue cs).2.2 ++ [x]) ∨
    (∀ c ∈ cs, isBlank c = false) ∧ readValue cs = (String.ofList cs, false, []) ∧
      readValue (cs ++ [x]) = ((String.ofList cs).push x, false, []) := by
  have hblank : isBlank x = false := (endsKey_eq_false_iff.mp hx).1
  cases hphrase : readPhrase? cs with
  | some p => exact .inl (by simp [readValue, readPhrase?_concat hx, hphrase])
  | none =>
    have hrun (ds : List Char) (hds : readPhrase? ds = none) : readValue ds =
        (String.ofList (firstRun ds), false, ds.dropWhile (!isBlank ·)) := by
      rw [readValue, hds]
    have hphrase' : readPhrase? (cs ++ [x]) = none := by
      rw [readPhrase?_concat hx, hphrase, Option.map_none]
    rw [hrun cs hphrase, hrun _ hphrase', List.dropWhile_append]
    cases hdrop : cs.dropWhile (!isBlank ·) with
    | nil =>
      have hcs : ∀ c ∈ cs, isBlank c = false := fun c hc => by
        simpa using List.dropWhile_eq_nil_iff.mp hdrop c hc
      have hall : ∀ c ∈ cs ++ [x], isBlank c = false :=
        List.forall_mem_append.mpr ⟨hcs, List.forall_mem_singleton.mpr hblank⟩
      refine .inr ⟨hcs, by rw [firstRun_of_not_blank hcs], ?_⟩
      rw [firstRun_of_not_blank hall]
      simp [hblank]
    | cons b after =>
      rw [firstRun, firstRun, takeWhile_concat (by simp [hdrop])]
      exact .inl rfl

end Reading

/-! ## Terms -/

namespace Term

def push (t : Term) (x : Char) : Term := { t with value := t.value.push x }

theorem prefix_dropWhile_trimWord (cs : List Char) :
    trimWord cs <+: cs.dropWhile (!isWordChar ·) := by
  rw [← List.reverse_suffix, trimWord, List.reverse_reverse]
  exact List.dropWhile_suffix _

/-- Nothing is trimmed behind a letter. -/
theorem trimWord_concat {x : Char} (hx : isWordChar x = true) (cs : List Char) :
    trimWord (cs ++ [x]) = cs.dropWhile (!isWordChar ·) ++ [x] := by
  have hdrop : (cs ++ [x]).dropWhile (!isWordChar ·) = cs.dropWhile (!isWordChar ·) ++ [x] := by
    rw [List.dropWhile_append]
    cases cs.dropWhile (!isWordChar ·) with
    | nil => simp [hx]
    | cons d ds => rfl
  rw [trimWord, hdrop, List.reverse_append]
  simp [hx]

/-- A longer run requires a longer word, or a word where there was none. -/
theorem exists_word_push {t : Term} {x : Char} (hblank : isBlank x = false)
    (hx : isWordChar x = true) (ht : ∀ c ∈ t.value.toList, isBlank c = false) {w : String}
    (hw : w ∈ t.words) : ∃ w' ∈ (t.push x).words, w.toList <:+: w'.toList := by
  rcases List.mem_append.mp hw with hkey | hvalue
  · exact ⟨w, List.mem_append_left _ hkey, List.infix_refl _⟩
  · obtain ⟨v, hv, rfl⟩ := List.mem_map.mp hvalue
    obtain ⟨u, hu, rfl⟩ := List.mem_map.mp (List.mem_filter.mp hv).1
    have hne : t.value.toList ≠ [] := by
      intro hnil
      rw [hnil, words_nil] at hu
      cases hu
    rw [words_of_not_blank hne ht, List.mem_singleton] at hu
    subst hu
    have hall : ∀ c ∈ t.value.toList ++ [x], isBlank c = false :=
      List.forall_mem_append.mpr ⟨ht, List.forall_mem_singleton.mpr hblank⟩
    have hwords : valueWords (t.value.toList ++ [x]) = [trimWord (t.value.toList ++ [x])] := by
      rw [valueWords, words_of_not_blank (by simp) hall]
      simp [trimWord_concat hx]
    refine ⟨String.ofList (trimWord (t.value.toList ++ [x])), List.mem_append_right _ ?_, ?_⟩
    · simp [push, hwords]
    · rw [String.toList_ofList, String.toList_ofList, trimWord_concat hx]
      exact (prefix_dropWhile_trimWord _).isInfix.trans (List.prefix_append _ _).isInfix

end Term

/-- What is read of a text and what is left, and the same when one more character is typed: it is
left over, or it belongs to the run that reached the end. -/
inductive Lengthens (x : Char) : Term × List Char → Term × List Char → Prop
  | left {t : Term} {rest : List Char} : Lengthens x (t, rest) (t, rest ++ [x])
  | taken {t : Term} (hrun : ∀ c ∈ t.value.toList, isBlank c = false) :
      Lengthens x (t, []) (t.push x, [])

/-- The terms of a query, and its terms when one more character is typed. -/
inductive Typed (x : Char) : List Term → List Term → Prop
  | starts : Typed x [] [⟨none, [], String.ofList [x], false⟩]
  | lengthens {t : Term} (hrun : ∀ c ∈ t.value.toList, isBlank c = false) :
      Typed x [t] [t.push x]
  | cons {t : Term} {ts ts' : List Term} (h : Typed x ts ts') : Typed x (t :: ts) (t :: ts')

section Terms

variable {x : Char} (hx : endsKey x = false)

include hx

theorem lengthens_readValue (field : Option String) (keys : List String) (cs : List Char) :
    Lengthens x (⟨field, keys, (readValue cs).1, (readValue cs).2.1⟩, (readValue cs).2.2)
      (⟨field, keys, (readValue (cs ++ [x])).1, (readValue (cs ++ [x])).2.1⟩,
        (readValue (cs ++ [x])).2.2) := by
  rcases readValue_concat hx cs with hleft | ⟨hcs, hrun, htaken⟩
  · rw [hleft]
    exact .left
  · rw [hrun, htaken]
    exact .taken (t := ⟨field, keys, String.ofList cs, false⟩) (by simpa using hcs)

variable (lookup : FieldLookup) {cs : List Char} (hcs : cs.getLast? ≠ some ':')

include hcs

theorem readFieldTerm?_concat :
    Option.Rel (Lengthens x) (readFieldTerm? lookup cs) (readFieldTerm? lookup (cs ++ [x])) := by
  obtain ⟨hblank, hcolon, -⟩ := endsKey_eq_false_iff.mp hx
  have hname : endsFieldName x = false := by simp [endsFieldName, hblank, hcolon]
  rw [readFieldTerm?, readFieldTerm?, cutFieldName?_concat hname hcs]
  cases cutFieldName? cs with
  | none => exact .none
  | some p =>
    obtain ⟨typed, after⟩ := p
    simp only [Option.map_some]
    cases lookup (String.ofList typed) with
    | none => exact .none
    | some field =>
      simp only [readKeys_concat hx]
      exact .some (lengthens_readValue hx (some field) (readKeys after).1 (readKeys after).2)

theorem readTerm_concat : Lengthens x (readTerm lookup cs) (readTerm lookup (cs ++ [x])) := by
  have hfield := readFieldTerm?_concat hx lookup hcs
  rw [readTerm, readTerm]
  generalize readFieldTerm? lookup cs = old, readFieldTerm? lookup (cs ++ [x]) = new at hfield ⊢
  cases hfield with
  | some h => exact h
  | none => exact lengthens_readValue hx none [] cs

end Terms

theorem Lengthens.typed {x : Char} {lookup : FieldLookup} {old new : Term × List Char}
    (h : Lengthens x old new)
    (hrest : Typed x (scanChars lookup old.2) (scanChars lookup (old.2 ++ [x]))) :
    Typed x (old.1 :: scanChars lookup old.2) (new.1 :: scanChars lookup new.2) := by
  cases h with
  | left => exact .cons hrest
  | taken hrun =>
    rw [scanChars_nil]
    exact .lengthens hrun

theorem getLast?_ne_of_suffix {x : Char} {cs ds : List Char} (hsuffix : ds <:+ cs)
    (h : cs.getLast? ≠ some x) : ds.getLast? ≠ some x := by
  obtain ⟨front, rfl⟩ := hsuffix
  intro hds
  rw [List.getLast?_append, hds] at h
  exact h rfl

theorem scanChars_concat {x : Char} (hx : endsKey x = false) (lookup : FieldLookup)
    {cs : List Char} (hcs : cs.getLast? ≠ some ':') :
    Typed x (scanChars lookup cs) (scanChars lookup (cs ++ [x])) := by
  obtain ⟨hblank, hcolon, hquote⟩ := endsKey_eq_false_iff.mp hx
  fun_induction scanChars lookup cs with
  | case1 cs hnil =>
    have hgap : ∀ c ∈ cs, isBlank c = true := List.dropWhile_eq_nil_iff.mp hnil
    have hread : readTerm lookup [x] = (⟨none, [], String.ofList [x], false⟩, []) := by
      rw [readTerm_of_plain lookup (by simp [hcolon, hquote])]
      simp [firstRun, hblank]
    have hstart : startsBlank [x] = false := hblank
    rw [scanChars_append_blanks hgap, scanChars_of_not_startsBlank hstart, hread, scanChars_nil]
    exact .starts
  | case2 cs c rest hskip r ih =>
    have hsuffix : c :: rest <:+ cs := hskip ▸ List.dropWhile_suffix _
    have hskip' : skipBlanks (cs ++ [x]) = c :: (rest ++ [x]) := by
      rw [skipBlanks, List.dropWhile_append, ← skipBlanks, hskip]
      rfl
    have hread := readTerm_concat hx lookup (getLast?_ne_of_suffix hsuffix hcs)
    obtain ⟨u, -, hsplit, -⟩ := exists_slice_readTerm lookup (not_blank_of_skipBlanks hskip) rest
    have hleft : r.2 <:+ cs := List.IsSuffix.trans ⟨u, hsplit.symm⟩ hsuffix
    have hrest := ih (getLast?_ne_of_suffix hleft hcs)
    rw [scanChars_of_skipBlanks hskip', ← List.cons_append]
    exact hread.typed hrest

/-- Each word that a query requires is part of a word that is required of the same field when the
query is typed further. -/
theorem Typed.covers {x : Char} {ts ts' : List Term} (h : Typed x ts ts')
    (hblank : isBlank x = false) (hx : isWordChar x = true) :
    ∀ t ∈ ts, ∀ w ∈ t.words,
      ∃ t' ∈ ts', t'.field = t.field ∧ ∃ w' ∈ t'.words, w.toList <:+: w'.toList := by
  induction h with
  | starts => simp
  | @lengthens t hrun =>
    intro u hu w hw
    obtain rfl := List.mem_singleton.mp hu
    exact ⟨u.push x, List.mem_singleton_self _, rfl, Term.exists_word_push hblank hx hrun hw⟩
  | @cons t ts ts' _ ih =>
    intro u hu w hw
    rcases List.mem_cons.mp hu with rfl | hu
    · exact ⟨u, List.mem_cons_self, rfl, w, hw, List.infix_refl _⟩
    · obtain ⟨t', ht', hcovers⟩ := ih u hu w hw
      exact ⟨t', List.mem_cons_of_mem _ ht', hcovers⟩

end RecordSearch.Query
