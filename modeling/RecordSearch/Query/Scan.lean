import RecordSearch.Query.Term
import RecordSearch.Query.Lookup
import RecordSearch.Text.Substring

/-!
Cutting a query into terms.

    query  = term*, with blanks between and around
    term   = [field ":" (key ":")*] value
    value  = quote text quote | run

A field is the text before the first colon of a run, if the lookup knows it and something follows
the colon. A quote opens a phrase if the same quote comes again and text is in between; the phrase
may hold blanks, and ends the term. Anything else is read as a run of characters up to a blank.

Every term takes up at least one character (`readTerm_length_lt`), so `scanChars` ends.
-/

namespace RecordSearch.Query

open RecordSearch.Text

/-! ## Characters -/

def isQuote (c : Char) : Bool := c = '"' || c = '\''

/-- What the typed name of a field cannot hold. -/
def endsFieldName (c : Char) : Bool := isBlank c || c = ':'

/-- What a key cannot hold. -/
def endsKey (c : Char) : Bool := isBlank c || c = ':' || isQuote c

def startsBlank : List Char → Bool
  | [] => true
  | c :: _ => isBlank c

def startsQuote : List Char → Bool
  | [] => false
  | c :: _ => isQuote c

/-! ## Parts of a term -/

/-- The text before the colon that ends it, and the text after that colon. -/
def cutAtColon? (stop : Char → Bool) (cs : List Char) : Option (List Char × List Char) :=
  match cs.dropWhile (!stop ·) with
  | ':' :: rest => some (cs.takeWhile (!stop ·), rest)
  | _ => none

theorem eq_of_cutAtColon? {stop : Char → Bool} {cs a rest : List Char}
    (h : cutAtColon? stop cs = some (a, rest)) :
    cs = a ++ ':' :: rest ∧ ∀ c ∈ a, stop c = false := by
  unfold cutAtColon? at h
  split at h
  · rename_i heq
    simp only [Option.some.injEq, Prod.mk.injEq] at h
    obtain ⟨rfl, rfl⟩ := h
    refine ⟨by rw [← heq, List.takeWhile_append_dropWhile], fun c hc => ?_⟩
    simpa using (List.all_eq_true.mp (List.all_takeWhile (p := (!stop ·)) (l := cs)) c hc)
  · simp at h

/-- A text that may name a field, and the text after its colon. -/
def cutFieldName? (cs : List Char) : Option (List Char × List Char) :=
  match cutAtColon? endsFieldName cs with
  | some (typed, rest) =>
    if typed.isEmpty || startsQuote typed || startsBlank rest then none else some (typed, rest)
  | none => none

def cutKey? (cs : List Char) : Option (List Char × List Char) :=
  match cutAtColon? endsKey cs with
  | some (key, rest) => if key.isEmpty then none else some (key, rest)
  | none => none

theorem cutAtColon?_of_cutFieldName? {cs a rest : List Char}
    (h : cutFieldName? cs = some (a, rest)) :
    cutAtColon? endsFieldName cs = some (a, rest) ∧ a ≠ [] ∧ startsQuote a = false ∧
      startsBlank rest = false := by
  unfold cutFieldName? at h
  split at h
  · rename_i typed rest' heq
    by_cases hc : typed.isEmpty || startsQuote typed || startsBlank rest'
    · simp [hc] at h
    · simp only [hc, Bool.false_eq_true, ↓reduceIte, Option.some.injEq, Prod.mk.injEq] at h
      obtain ⟨rfl, rfl⟩ := h
      simp only [Bool.or_eq_true, List.isEmpty_iff, not_or, Bool.not_eq_true] at hc
      exact ⟨heq, hc.1.1, hc.1.2, hc.2⟩
  · simp at h

theorem cutAtColon?_of_cutKey? {cs k rest : List Char} (h : cutKey? cs = some (k, rest)) :
    cutAtColon? endsKey cs = some (k, rest) ∧ k ≠ [] := by
  unfold cutKey? at h
  split at h
  · rename_i key rest' heq
    by_cases hc : key.isEmpty
    · simp [hc] at h
    · simp only [hc, Bool.false_eq_true, ↓reduceIte, Option.some.injEq, Prod.mk.injEq] at h
      obtain ⟨rfl, rfl⟩ := h
      exact ⟨heq, by simpa using hc⟩
  · simp at h

theorem cutKey?_length_lt {cs k rest : List Char} (h : cutKey? cs = some (k, rest)) :
    rest.length < cs.length := by
  rw [(eq_of_cutAtColon? (cutAtColon?_of_cutKey? h).1).1]
  simp only [List.length_append, List.length_cons]
  omega

/-- The keys a field's value starts with, and the text after their colons. -/
def readKeys (cs : List Char) : List String × List Char :=
  match _h : cutKey? cs with
  | none => ([], cs)
  | some (key, rest) =>
    let (keys, rest') := readKeys rest
    (String.ofList key :: keys, rest')
termination_by cs.length
decreasing_by exact cutKey?_length_lt _h

/-- A phrase, without its quotes, and the text after it. -/
def readPhrase? : List Char → Option (List Char × List Char)
  | [] => none
  | q :: body =>
    if isQuote q then
      match splitAtFirst q body with
      | some ([], _) => none
      | r => r
    else none

/-- A value, whether it is a phrase, and the text after it. -/
def readValue (cs : List Char) : String × Bool × List Char :=
  match readPhrase? cs with
  | some (phrase, rest) => (String.ofList phrase, true, rest)
  | none => (String.ofList (firstRun cs), false, cs.dropWhile (!isBlank ·))

/-! ## Terms -/

def readFieldTerm? (lookup : FieldLookup) (cs : List Char) : Option (Term × List Char) :=
  match cutFieldName? cs with
  | none => none
  | some (typed, rest) =>
    match lookup (String.ofList typed) with
    | none => none
    | some field =>
      let (keys, rest) := readKeys rest
      let (value, phrase, rest) := readValue rest
      some (⟨some field, keys, value, phrase⟩, rest)

def readBareTerm (cs : List Char) : Term × List Char :=
  let (value, phrase, rest) := readValue cs
  (⟨none, [], value, phrase⟩, rest)

def readTerm (lookup : FieldLookup) (cs : List Char) : Term × List Char :=
  (readFieldTerm? lookup cs).getD (readBareTerm cs)

theorem readKeys_length_le (cs : List Char) : (readKeys cs).2.length ≤ cs.length := by
  fun_induction readKeys cs with
  | case1 => simp
  | case2 cs key rest h keys rest' heq ih =>
    rw [heq] at ih
    exact Nat.le_trans ih (Nat.le_of_lt (cutKey?_length_lt h))

theorem readPhrase?_length_lt {cs p rest : List Char} (h : readPhrase? cs = some (p, rest)) :
    rest.length < cs.length := by
  cases cs with
  | nil => simp [readPhrase?] at h
  | cons q body =>
    by_cases hq : isQuote q = true
    · simp only [readPhrase?, hq, ↓reduceIte] at h
      have hs : splitAtFirst q body = some (p, rest) := by
        split at h
        · simp at h
        · exact h
      rw [(splitAtFirst_eq_some_iff.mp hs).1]
      simp only [List.length_cons, List.length_append]
      omega
    · simp [readPhrase?, hq] at h

theorem readValue_length_le (cs : List Char) : (readValue cs).2.2.length ≤ cs.length := by
  unfold readValue
  split
  · exact Nat.le_of_lt (readPhrase?_length_lt (by assumption))
  · exact (List.dropWhile_suffix _).length_le

theorem readValue_length_lt {c : Char} (hc : isBlank c = false) (cs : List Char) :
    (readValue (c :: cs)).2.2.length < (c :: cs).length := by
  unfold readValue
  split
  · exact readPhrase?_length_lt (by assumption)
  · have := (List.dropWhile_suffix (!isBlank ·) (l := cs)).length_le
    simp only [List.dropWhile_cons, hc, Bool.not_false, ↓reduceIte, List.length_cons]
    omega

theorem readFieldTerm?_length_lt {lookup : FieldLookup} {cs rest : List Char} {t : Term}
    (h : readFieldTerm? lookup cs = some (t, rest)) : rest.length < cs.length := by
  unfold readFieldTerm? at h
  split at h
  · simp at h
  · rename_i typed after heq
    split at h
    · simp at h
    · simp only [Option.some.injEq, Prod.mk.injEq] at h
      have hk := readKeys_length_le after
      have hv := readValue_length_le (readKeys after).2
      have ha := (eq_of_cutAtColon? (cutAtColon?_of_cutFieldName? heq).1).1
      rw [← h.2, ha]
      refine Nat.lt_of_le_of_lt (Nat.le_trans hv hk) ?_
      simp only [List.length_append, List.length_cons]
      omega

theorem readTerm_length_lt (lookup : FieldLookup) {c : Char} (hc : isBlank c = false)
    (cs : List Char) : (readTerm lookup (c :: cs)).2.length < (c :: cs).length := by
  unfold readTerm
  cases h : readFieldTerm? lookup (c :: cs) with
  | none => exact readValue_length_lt hc cs
  | some p => exact readFieldTerm?_length_lt h

def scanChars (lookup : FieldLookup) (cs : List Char) : List Term :=
  match _h : skipBlanks cs with
  | [] => []
  | c :: rest =>
    let r := readTerm lookup (c :: rest)
    r.1 :: scanChars lookup r.2
termination_by cs.length
decreasing_by
  have h1 := readTerm_length_lt lookup (not_blank_of_skipBlanks _h) rest
  have h2 := skipBlanks_length_le cs
  rw [_h] at h2
  omega

def scan (lookup : FieldLookup) (query : String) : List Term := scanChars lookup query.toList

example : scan (lookupIn ["title"]) "TITLE:a:'b c' d:e \"" =
    [⟨some "title", ["a"], "b c", true⟩, ⟨none, [], "d:e", false⟩, ⟨none, [], "\"", false⟩] := by
  decide +kernel

end RecordSearch.Query
