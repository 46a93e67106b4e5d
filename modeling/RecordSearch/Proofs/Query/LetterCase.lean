import Mathlib.Data.List.Nodup
import RecordSearch.Proofs.Query.Reading
import RecordSearch.Proofs.Text.AsciiCase
import RecordSearch.Store

/-!
The case of the letters `A` to `Z` in a query. Nothing that ends a part of a term is a letter, so a
query is cut in the same places whatever the case of its letters (`scan_foldCase`), and names and
words are compared in lower case (`compile_foldCase`). A registry that prefers a name of the same
spelling finds no other than a plain list of its names, if these differ in lower case
(`FieldRegistry.lookup_eq_lookupIn`).
-/

namespace RecordSearch

namespace Query

open RecordSearch.Text

def Term.foldCase (t : Term) : Term :=
  { t with keys := t.keys.map Text.foldCase, value := Text.foldCase t.value }

/-! ## Characters -/

theorem isQuote_lowerAscii (c : Char) : isQuote (lowerAscii c) = isQuote c :=
  apply_lowerAscii (by decide +kernel) c

theorem endsFieldName_lowerAscii (c : Char) : endsFieldName (lowerAscii c) = endsFieldName c :=
  apply_lowerAscii (by decide +kernel) c

theorem endsKey_lowerAscii (c : Char) : endsKey (lowerAscii c) = endsKey c :=
  apply_lowerAscii (by decide +kernel) c

theorem startsBlank_map (cs : List Char) : startsBlank (cs.map lowerAscii) = startsBlank cs := by
  cases cs with
  | nil => rfl
  | cons c cs => exact isBlank_lowerAscii c

theorem startsQuote_map (cs : List Char) : startsQuote (cs.map lowerAscii) = startsQuote cs := by
  cases cs with
  | nil => rfl
  | cons c cs => exact isQuote_lowerAscii c

/-! ## Parts of a term -/

theorem cutAtColon?_map {stop : Char → Bool} (hstop : ∀ c, stop (lowerAscii c) = stop c)
    (cs : List Char) :
    cutAtColon? stop (cs.map lowerAscii) =
      (cutAtColon? stop cs).map fun (a, rest) => (a.map lowerAscii, rest.map lowerAscii) := by
  have hgo : (fun c => !stop c) ∘ lowerAscii = fun c => !stop c := funext fun c => by simp [hstop]
  rw [cutAtColon?, cutAtColon?, List.dropWhile_map, List.takeWhile_map, hgo]
  cases cs.dropWhile (!stop ·) with
  | nil => rfl
  | cons d ds =>
    by_cases hd : d = ':'
    · subst hd
      rfl
    · have hd' : lowerAscii d ≠ ':' := mt lowerAscii_eq_colon_iff.mp hd
      simp [hd, hd']

theorem cutFieldName?_map (cs : List Char) :
    cutFieldName? (cs.map lowerAscii) =
      (cutFieldName? cs).map fun (typed, rest) =>
        (typed.map lowerAscii, rest.map lowerAscii) := by
  rw [cutFieldName?, cutFieldName?, cutAtColon?_map endsFieldName_lowerAscii]
  cases cutAtColon? endsFieldName cs with
  | none => rfl
  | some p =>
    simp only [Option.map_some, List.isEmpty_map, startsQuote_map, startsBlank_map]
    split <;> rfl

theorem cutKey?_map (cs : List Char) :
    cutKey? (cs.map lowerAscii) =
      (cutKey? cs).map fun (key, rest) => (key.map lowerAscii, rest.map lowerAscii) := by
  rw [cutKey?, cutKey?, cutAtColon?_map endsKey_lowerAscii]
  cases cutAtColon? endsKey cs with
  | none => rfl
  | some p =>
    simp only [Option.map_some, List.isEmpty_map]
    split <;> rfl

theorem readKeys_map (cs : List Char) :
    readKeys (cs.map lowerAscii) =
      ((readKeys cs).1.map foldCase, (readKeys cs).2.map lowerAscii) := by
  fun_induction readKeys cs with
  | case1 cs hcut =>
    have hcut' : cutKey? (cs.map lowerAscii) = none := by rw [cutKey?_map, hcut, Option.map_none]
    rw [readKeys_of_none hcut', List.map_nil]
  | case2 cs key rest hcut keys rest' heq ih =>
    have hcut' : cutKey? (cs.map lowerAscii) = some (key.map lowerAscii, rest.map lowerAscii) := by
      rw [cutKey?_map, hcut, Option.map_some]
    rw [readKeys_of_some hcut', ih, heq]
    simp [foldCase]

theorem splitAtFirst_map {q : Char} (hq : ∀ c, lowerAscii c = q ↔ c = q) (cs : List Char) :
    splitAtFirst q (cs.map lowerAscii) =
      (splitAtFirst q cs).map fun (a, b) => (a.map lowerAscii, b.map lowerAscii) := by
  induction cs with
  | nil => rfl
  | cons c cs ih =>
    by_cases hc : c = q
    · simp [splitAtFirst, hq, hc]
    · simp only [List.map_cons, splitAtFirst, hq, hc, ↓reduceIte, ih, Option.map_map]
      rfl

theorem readPhrase?_map (cs : List Char) :
    readPhrase? (cs.map lowerAscii) =
      (readPhrase? cs).map fun (phrase, rest) =>
        (phrase.map lowerAscii, rest.map lowerAscii) := by
  cases cs with
  | nil => rfl
  | cons q body =>
    by_cases hq : isQuote q = true
    · have hfold : lowerAscii q = q ∧ ∀ c, lowerAscii c = q ↔ c = q := by
        simp only [isQuote, Bool.or_eq_true, decide_eq_true_eq] at hq
        rcases hq with rfl | rfl
        · exact ⟨rfl, fun c => lowerAscii_eq_iff (by decide +kernel)⟩
        · exact ⟨rfl, fun c => lowerAscii_eq_iff (by decide +kernel)⟩
      rw [List.map_cons, hfold.1, readPhrase?, readPhrase?, if_pos hq, if_pos hq,
        splitAtFirst_map hfold.2]
      rcases splitAtFirst q body with _ | ⟨_ | ⟨c, phrase⟩, rest⟩ <;> rfl
    · simp [readPhrase?, isQuote_lowerAscii, hq]

theorem readValue_map (cs : List Char) :
    readValue (cs.map lowerAscii) =
      (foldCase (readValue cs).1, (readValue cs).2.1, (readValue cs).2.2.map lowerAscii) := by
  have hgo : (fun c => !isBlank c) ∘ lowerAscii = fun c => !isBlank c :=
    funext fun c => by simp [isBlank_lowerAscii]
  rw [readValue, readValue, readPhrase?_map]
  cases readPhrase? cs with
  | none => simp [foldCase, firstRun, List.takeWhile_map, List.dropWhile_map, hgo]
  | some p => simp [foldCase]

/-! ## Words -/

theorem ofWord_foldCase (field : Option String) (word : String) :
    Pattern.ofWord field (foldCase word) = Pattern.ofWord field word := by
  rw [Pattern.ofWord, lower_foldCase, Pattern.ofWord]

theorem words_foldCase (t : Term) : t.foldCase.words = t.words.map foldCase := by
  have hword : String.ofList ∘ List.map lowerAscii = foldCase ∘ String.ofList :=
    funext fun w => by simp [foldCase]
  simp [Term.words, Term.foldCase, Term.valueWords_map isBlank_lowerAscii isWordChar_lowerAscii,
    hword]

theorem termPatterns_foldCase (t : Term) : termPatterns t.foldCase = termPatterns t := by
  rw [termPatterns, words_foldCase, List.map_map, termPatterns]
  exact List.map_congr_left fun word _ => ofWord_foldCase t.field word

/-! ## Terms -/

section

variable {lookup : FieldLookup} (hlookup : ∀ typed, lookup (foldCase typed) = lookup typed)

include hlookup

theorem readFieldTerm?_map (cs : List Char) :
    readFieldTerm? lookup (cs.map lowerAscii) =
      (readFieldTerm? lookup cs).map fun (t, rest) => (t.foldCase, rest.map lowerAscii) := by
  rw [readFieldTerm?, readFieldTerm?, cutFieldName?_map]
  rcases cutFieldName? cs with _ | ⟨typed, rest⟩
  · rfl
  · have htyped : lookup (String.ofList (typed.map lowerAscii)) = lookup (String.ofList typed) := by
      rw [← hlookup (String.ofList typed), foldCase, String.toList_ofList]
    simp only [Option.map_some, htyped]
    cases lookup (String.ofList typed) with
    | none => rfl
    | some field =>
      simp only [readKeys_map, readValue_map, Option.map_some]
      rfl

theorem readTerm_map (cs : List Char) :
    readTerm lookup (cs.map lowerAscii) =
      ((readTerm lookup cs).1.foldCase, (readTerm lookup cs).2.map lowerAscii) := by
  rw [readTerm, readTerm, readFieldTerm?_map hlookup]
  cases readFieldTerm? lookup cs with
  | none =>
    simp only [Option.map_none, Option.getD_none, readBareTerm, readValue_map]
    rfl
  | some p => rfl

theorem scanChars_map (cs : List Char) :
    scanChars lookup (cs.map lowerAscii) = (scanChars lookup cs).map Term.foldCase := by
  have hgo : isBlank ∘ lowerAscii = isBlank := funext isBlank_lowerAscii
  fun_induction scanChars lookup cs with
  | case1 cs hnil =>
    have hnil' : skipBlanks (cs.map lowerAscii) = [] := by
      rw [skipBlanks, List.dropWhile_map, hgo, ← skipBlanks, hnil, List.map_nil]
    rw [scanChars_of_skipBlanks_nil hnil', List.map_nil]
  | case2 cs c rest hskip r ih =>
    have hskip' : skipBlanks (cs.map lowerAscii) = (c :: rest).map lowerAscii := by
      rw [skipBlanks, List.dropWhile_map, hgo, ← skipBlanks, hskip]
    rw [scanChars_of_skipBlanks hskip', ← List.map_cons, readTerm_map hlookup, ih, List.map_cons]

theorem scan_foldCase (query : String) :
    scan lookup (foldCase query) = (scan lookup query).map Term.foldCase := by
  rw [scan, toList_foldCase]
  exact scanChars_map hlookup query.toList

theorem compile_foldCase (query : String) :
    compile lookup (foldCase query) = compile lookup query := by
  rw [compile, scan_foldCase hlookup, List.flatMap_map, compile]
  exact List.flatMap_congr fun t _ => termPatterns_foldCase t

end

theorem lookupIn_foldCase (names : List String) (typed : String) :
    lookupIn names (foldCase typed) = lookupIn names typed := by
  rw [lookupIn, lookupIn, lower_foldCase]

end Query

open RecordSearch.Text RecordSearch.Query

/-- Names of the same spelling are preferred in vain. -/
theorem FieldRegistry.lookup_eq_lookupIn {r : FieldRegistry} (h : (r.names.map lower).Nodup) :
    r.lookup = lookupIn r.names := by
  funext typed
  by_cases hmem : typed ∈ r.names
  · rw [lookup, if_pos (List.contains_iff_mem.mpr hmem)]
    cases hfind : lookupIn r.names typed with
    | none =>
      have hdiffers := List.find?_eq_none.mp hfind typed hmem
      exact absurd (beq_self_eq_true (lower typed)) hdiffers
    | some name =>
      have hname : name = typed := List.inj_on_of_nodup_map h (mem_of_lookupIn hfind) hmem
        (lower_of_lookupIn hfind)
      rw [hname]
  · rw [lookup, if_neg (by simpa using hmem)]

/-- Queries that differ in the case of letters alone ask for the same, whether names are looked up in
the registry or in the list of its names. -/
theorem compile_eq_of_foldCase_eq {r : FieldRegistry} (hnames : (r.names.map lower).Nodup)
    {query query' : String} (h : foldCase query = foldCase query') :
    compile r.lookup query = compile r.lookup query' ∧
    compile r.lookup query' = compile (lookupIn r.names) query ∧
    ∀ s : RecordStore, s.registry = r → s.search query = s.search query' := by
  have hlookup := FieldRegistry.lookup_eq_lookupIn hnames
  have hcompile : compile r.lookup query = compile r.lookup query' := by
    rw [hlookup, ← compile_foldCase (lookupIn_foldCase r.names) query, h,
      compile_foldCase (lookupIn_foldCase r.names) query']
  refine ⟨hcompile, ?_, fun s hs => ?_⟩
  · rw [← hcompile, hlookup]
  · rw [RecordStore.search, hs, hcompile, RecordStore.search, hs]

def streetFields : FieldRegistry :=
  ((FieldRegistry.empty "street").insert
    (.direct "street" ⟨"name", { SearchOptions.empty with aliasName := some "Οδός" }⟩)).insert
    (.direct "street" ⟨"town", { SearchOptions.empty with aliasName := some "Town" }⟩)

/-- The capital sigma of the phrase ends a word in neither query, as a letter comes after it. The
name of the first field is spelled as it is registered in one query alone. -/
theorem compile_streetFields :
    (streetFields.names.map lower).Nodup ∧
    foldCase "Town:Key:'ΟΔΟΣa B' ΟΔΌς:XI" = foldCase "tOWN:kEY:'ΟΔΟΣA b' ΟΔΌς:xi" ∧
    compile streetFields.lookup "tOWN:kEY:'ΟΔΟΣA b' ΟΔΌς:xi" =
      compile (lookupIn streetFields.names) "Town:Key:'ΟΔΟΣa B' ΟΔΌς:XI" ∧
    (compile streetFields.lookup "Town:Key:'ΟΔΟΣa B' ΟΔΌς:XI").map Pattern.display =
      ["Town:*key*", "Town:*οδοσa*", "Town:*b*", "Οδός:*xi*"] := by
  have hnames : (streetFields.names.map lower).Nodup := by decide +kernel
  have hfold : foldCase "Town:Key:'ΟΔΟΣa B' ΟΔΌς:XI" =
      foldCase "tOWN:kEY:'ΟΔΟΣA b' ΟΔΌς:xi" := by decide +kernel
  obtain ⟨-, hlist, -⟩ := compile_eq_of_foldCase_eq hnames hfold
  exact ⟨hnames, hfold, hlist, by decide +kernel⟩

end RecordSearch
