import RecordSearch.Proofs.Text.Words
import RecordSearch.Query.Scan
import Mathlib.Data.List.Forall2
import Mathlib.Data.List.TakeWhile

/-!
Where the terms of a query stand in it. Each term is read off one slice of the query
(`TermSlice`), the slices follow each other in the order of the terms, and between them are only
blanks (`scan_slices`).

Every reader is shown to split its text into what it says it has read and what it leaves
(`eq_readKeys`, `exists_slice_readValue`, `exists_slice_readTerm`).
-/

namespace RecordSearch.Query

open RecordSearch.Text

/-! ## Slices -/

/-- A text that can stand before a colon. -/
def IsKey (s : String) : Prop := s ≠ "" ∧ ∀ c ∈ s.toList, endsKey c = false

instance (s : String) : Decidable (IsKey s) :=
  decidable_of_iff (s ≠ "" ∧ s.toList.all (!endsKey ·) = true) (by simp [IsKey])

/-- Each part with a colon after it. -/
def colons (parts : List String) : List Char := parts.flatMap fun s => s.toList ++ [':']

/-- A value as it stands in a query: as it is, or as a phrase between quotes. -/
inductive ValueSlice : String → Bool → List Char → Prop
  | run (value : String) : ValueSlice value false value.toList
  | phrase {q : Char} {value : String} (hq : isQuote q = true) (hvalue : q ∉ value.toList) :
      ValueSlice value true (q :: value.toList ++ [q])

/-- A term as it stands in a query: a value, or the name of a field as it was typed, the keys and
then the value. -/
inductive TermSlice (lookup : FieldLookup) : Term → List Char → Prop
  | bare {value : String} {phrase : Bool} {u : List Char} (hvalue : ValueSlice value phrase u) :
      TermSlice lookup ⟨none, [], value, phrase⟩ u
  | field {typed field : String} {keys : List String} {value : String} {phrase : Bool}
      {u : List Char} (hlookup : lookup typed = some field) (hvalue : ValueSlice value phrase u) :
      TermSlice lookup ⟨some field, keys, value, phrase⟩ (colons (typed :: keys) ++ u)

/-- A text that consists of the slices, with blanks before, between and after them. -/
inductive Interleaved : List (List Char) → List Char → Prop
  | nil {gap : List Char} (hgap : ∀ c ∈ gap, isBlank c = true) : Interleaved [] gap
  | cons {gap u rest : List Char} {us : List (List Char)} (hgap : ∀ c ∈ gap, isBlank c = true)
      (hrest : Interleaved us rest) : Interleaved (u :: us) (gap ++ u ++ rest)

/-- What the parts of a scanned term can be. -/
structure Term.WellFormed (t : Term) : Prop where
  keys_eq_nil : t.field = none → t.keys = []
  isKey : ∀ key ∈ t.keys, IsKey key
  phrase_ne_empty : t.phrase = true → t.value ≠ ""
  run_not_blank : t.phrase = false → ∀ c ∈ t.value.toList, isBlank c = false
  bare_ne_empty : t.field = none → t.value ≠ ""

/-! ## Readers -/

theorem readKeys_of_none {cs : List Char} (h : cutKey? cs = none) : readKeys cs = ([], cs) := by
  rw [readKeys]
  split
  · rfl
  · rename_i hcut
    rw [h] at hcut
    cases hcut

theorem readKeys_of_some {cs key rest : List Char} (h : cutKey? cs = some (key, rest)) :
    readKeys cs = (String.ofList key :: (readKeys rest).1, (readKeys rest).2) := by
  rw [readKeys]
  split
  · rename_i hcut
    rw [h] at hcut
    cases hcut
  · rename_i hcut
    rw [h] at hcut
    cases hcut
    rfl

theorem eq_readKeys (cs : List Char) :
    cs = colons (readKeys cs).1 ++ (readKeys cs).2 ∧ ∀ key ∈ (readKeys cs).1, IsKey key := by
  fun_induction readKeys cs with
  | case1 => simp [colons]
  | case2 cs key rest h keys rest' heq ih =>
    obtain ⟨hcut, hne⟩ := cutAtColon?_of_cutKey? h
    obtain ⟨hcs, hstop⟩ := eq_of_cutAtColon? hcut
    rw [heq] at ih
    have hkey : IsKey (String.ofList key) := ⟨by simpa using hne, by simpa using hstop⟩
    refine ⟨?_, by simpa [hkey] using ih.2⟩
    rw [hcs, ih.1]
    simp [colons]

theorem eq_of_readPhrase? {cs p rest : List Char} (h : readPhrase? cs = some (p, rest)) :
    ∃ q, isQuote q = true ∧ cs = q :: p ++ q :: rest ∧ q ∉ p ∧ p ≠ [] := by
  cases cs with
  | nil => simp [readPhrase?] at h
  | cons q body =>
    by_cases hq : isQuote q = true
    · rw [readPhrase?, if_pos hq] at h
      split at h
      · simp at h
      · rename_i hnil
        obtain ⟨hbody, hnot⟩ := splitAtFirst_eq_some_iff.mp h
        exact ⟨q, hq, by rw [hbody, List.cons_append], hnot, fun hp => hnil rest (hp ▸ h)⟩
    · simp [readPhrase?, hq] at h

theorem not_blank_of_isQuote {c : Char} (h : isQuote c = true) : isBlank c = false := by
  simp only [isQuote, Bool.or_eq_true, decide_eq_true_eq] at h
  rcases h with rfl | rfl <;> rfl

theorem startsQuote_eq_false {cs : List Char} (h : ∀ c ∈ cs, isQuote c = false) :
    startsQuote cs = false := by
  cases cs with
  | nil => rfl
  | cons c cs => exact h c (List.mem_cons_self ..)

theorem readValue_of_not_startsQuote {cs : List Char} (h : startsQuote cs = false) :
    readValue cs = (String.ofList (firstRun cs), false, cs.dropWhile (!isBlank ·)) := by
  have hphrase : readPhrase? cs = none := by
    cases cs with
    | nil => rfl
    | cons c cs =>
      have hc : isQuote c = false := h
      simp [readPhrase?, hc]
  rw [readValue, hphrase]

/-- Either a phrase is read up to its second quote, or a run up to the next blank. -/
theorem readValue_cases (cs : List Char) :
    (∃ q p rest, isQuote q = true ∧ q ∉ p ∧ p ≠ [] ∧ cs = q :: p ++ q :: rest ∧
      readValue cs = (String.ofList p, true, rest)) ∨
    (readPhrase? cs = none ∧
      readValue cs = (String.ofList (firstRun cs), false, cs.dropWhile (!isBlank ·))) := by
  cases h : readPhrase? cs with
  | none => exact Or.inr ⟨rfl, by simp [readValue, h]⟩
  | some parts =>
    obtain ⟨p, rest⟩ := parts
    obtain ⟨q, hq, hcs, hnot, hne⟩ := eq_of_readPhrase? h
    exact Or.inl ⟨q, p, rest, hq, hnot, hne, hcs, by simp [readValue, h]⟩

theorem exists_slice_readValue (cs : List Char) :
    ∃ u, ValueSlice (readValue cs).1 (readValue cs).2.1 u ∧ cs = u ++ (readValue cs).2.2 := by
  rcases readValue_cases cs with ⟨q, p, rest, hq, hnot, -, hcs, hread⟩ | ⟨-, hread⟩
  · have hslice : ValueSlice (String.ofList p) true (q :: (String.ofList p).toList ++ [q]) :=
      .phrase hq (by simpa using hnot)
    rw [String.toList_ofList] at hslice
    exact ⟨q :: p ++ [q], hread ▸ hslice, by rw [hread, hcs, List.append_cons]⟩
  · have hslice := ValueSlice.run (String.ofList (firstRun cs))
    rw [String.toList_ofList] at hslice
    exact ⟨firstRun cs, hread ▸ hslice, by rw [hread]; exact List.takeWhile_append_dropWhile.symm⟩

theorem readValue_of_phrase {cs : List Char} (h : (readValue cs).2.1 = true) :
    (readValue cs).1 ≠ "" := by
  rcases readValue_cases cs with ⟨q, p, rest, -, -, hne, -, hread⟩ | ⟨-, hread⟩
  · simpa [hread] using hne
  · simp [hread] at h

theorem not_blank_readValue {cs : List Char} (h : (readValue cs).2.1 = false) :
    ∀ c ∈ (readValue cs).1.toList, isBlank c = false := by
  rcases readValue_cases cs with ⟨q, p, rest, -, -, -, -, hread⟩ | ⟨-, hread⟩
  · simp [hread] at h
  · intro c hc
    rw [hread, String.toList_ofList] at hc
    exact not_blank_of_mem_firstRun hc

theorem readValue_ne_empty {c : Char} (hc : isBlank c = false) (cs : List Char) :
    (readValue (c :: cs)).1 ≠ "" := by
  rcases readValue_cases (c :: cs) with ⟨q, p, rest, -, -, hne, -, hread⟩ | ⟨-, hread⟩
  · simpa [hread] using hne
  · simp [hread, firstRun, hc]

/-! ## Terms -/

section

variable (lookup : FieldLookup)

theorem exists_slice_readFieldTerm? {cs rest : List Char} {t : Term}
    (h : readFieldTerm? lookup cs = some (t, rest)) :
    ∃ u, TermSlice lookup t u ∧ cs = u ++ rest ∧ t.WellFormed := by
  unfold readFieldTerm? at h
  split at h
  · simp at h
  · rename_i typed after hcut
    obtain ⟨hcs, -⟩ := eq_of_cutAtColon? (cutAtColon?_of_cutFieldName? hcut).1
    split at h
    · simp at h
    · rename_i field hlookup
      simp only [Option.some.injEq, Prod.mk.injEq] at h
      obtain ⟨rfl, rfl⟩ := h
      obtain ⟨hafter, hkeys⟩ := eq_readKeys after
      obtain ⟨u, hvalue, hrest⟩ := exists_slice_readValue (readKeys after).2
      have hsplit : after =
          colons (readKeys after).1 ++ (u ++ (readValue (readKeys after).2).2.2) := by
        rw [← hrest]
        exact hafter
      refine ⟨colons (String.ofList typed :: (readKeys after).1) ++ u, .field hlookup hvalue,
        ?_, ?_⟩
      · calc cs
          _ = typed ++ ':' :: after := hcs
          _ = typed ++ ':' :: (colons (readKeys after).1 ++ _) := congrArg (typed ++ ':' :: ·) hsplit
          _ = _ := by simp [colons]
      · exact ⟨fun hnone => by simp at hnone, hkeys, readValue_of_phrase, not_blank_readValue,
          fun hnone => by simp at hnone⟩

theorem exists_slice_readTerm {c : Char} (hc : isBlank c = false) (cs : List Char) :
    ∃ u, TermSlice lookup (readTerm lookup (c :: cs)).1 u ∧
      c :: cs = u ++ (readTerm lookup (c :: cs)).2 ∧ (readTerm lookup (c :: cs)).1.WellFormed := by
  unfold readTerm
  cases h : readFieldTerm? lookup (c :: cs) with
  | some p => exact exists_slice_readFieldTerm? lookup h
  | none =>
    obtain ⟨u, hvalue, hcs⟩ := exists_slice_readValue (c :: cs)
    exact ⟨u, .bare hvalue, hcs, fun _ => rfl, by simp [readBareTerm], readValue_of_phrase,
      not_blank_readValue, fun _ => readValue_ne_empty hc cs⟩

theorem exists_slices_scanChars (cs : List Char) :
    ∃ us, List.Forall₂ (TermSlice lookup) (scanChars lookup cs) us ∧ Interleaved us cs ∧
      ∀ t ∈ scanChars lookup cs, t.WellFormed := by
  fun_induction scanChars lookup cs with
  | case1 cs h =>
    have hblank : ∀ c ∈ cs, isBlank c = true := List.dropWhile_eq_nil_iff.mp h
    exact ⟨[], .nil, .nil hblank, by simp⟩
  | case2 cs c rest h r ih =>
    obtain ⟨us, hslices, hinter, hwell⟩ := ih
    obtain ⟨u, hslice, hsplit, hterm⟩ :=
      exists_slice_readTerm lookup (not_blank_of_skipBlanks h) rest
    have hcs : cs.takeWhile isBlank ++ u ++ r.2 = cs := by
      rw [List.append_assoc, ← hsplit, ← h, skipBlanks, List.takeWhile_append_dropWhile]
    have hgap : ∀ c ∈ cs.takeWhile isBlank, isBlank c = true :=
      List.all_eq_true.mp List.all_takeWhile
    refine ⟨u :: us, .cons hslice hslices, hcs ▸ .cons hgap hinter, ?_⟩
    simpa [hterm] using ⟨hterm, hwell⟩

end

/-- Scanning a query cuts it, without a loss, into slices for the terms and blanks. Only a term with
a field has keys. -/
theorem scan_slices (lookup : FieldLookup) (query : String) :
    ∃ slices, List.Forall₂ (TermSlice lookup) (scan lookup query) slices ∧
      Interleaved slices query.toList ∧ ∀ t ∈ scan lookup query, t.WellFormed :=
  exists_slices_scanChars lookup query.toList

end RecordSearch.Query
