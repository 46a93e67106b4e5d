import RecordSearch.Query.Regex

/-!
Reading an expression from its text. A backslash makes the special character after it a literal one,
and other characters are literal unless they are special. What `text` writes is read back
(`ofText?_text`), so a text finds in a token what its expression finds (`foundIn_text`).
-/

namespace RecordSearch.Query.Regex

/-! ## Reading -/

def readPieces? : List Char → Option (List Piece)
  | [] => some []
  | '\\' :: c :: cs => if special.contains c then (readPieces? cs).map (.literal c :: ·) else none
  | '[' :: '^' :: ':' :: ']' :: '+' :: cs => (readPieces? cs).map (.noColon :: ·)
  | '.' :: '*' :: cs => (readPieces? cs).map (.anything :: ·)
  | c :: cs => if special.contains c then none else (readPieces? cs).map (.literal c :: ·)

/-- Expressions that are not anchored are not read. -/
def ofAnchored? (ignoreCase : Bool) : List Char → Option Regex
  | '^' :: cs => (readPieces? cs).map (⟨ignoreCase, ·⟩)
  | _ => none

def ofText? (text : String) : Option Regex :=
  match text.toList with
  | '(' :: '?' :: 'i' :: ')' :: cs => ofAnchored? true cs
  | cs => ofAnchored? false cs

/-- The expression with this text has a match in the token. -/
def foundIn (text token : String) : Bool := (ofText? text).any (·.finds token)

/-! ## Reading back -/

theorem readPieces?_of_not_special {c : Char} (h : special.contains c = false) (cs : List Char) :
    readPieces? (c :: cs) = (readPieces? cs).map (.literal c :: ·) := by
  have hne : ∀ d ∈ special, c ≠ d := by
    rintro d hd rfl
    rw [List.contains_iff_mem.mpr hd] at h
    cases h
  have hescape : c ≠ '\\' := hne _ (by decide)
  have hclass : c ≠ '[' := hne _ (by decide)
  have hdot : c ≠ '.' := hne _ (by decide)
  rw [readPieces?]
  · rw [if_neg (Bool.eq_false_iff.mp h)]
  all_goals simp [hescape, hclass, hdot]

theorem readPieces?_pieceText (p : Piece) (cs : List Char) :
    readPieces? (pieceText p ++ cs) = (readPieces? cs).map (p :: ·) := by
  cases p with
  | noColon => rfl
  | anything => rfl
  | literal c =>
    cases h : special.contains c with
    | true =>
      rw [pieceText, if_pos h]
      simp only [List.cons_append, List.nil_append, readPieces?, h, ↓reduceIte]
    | false =>
      rw [pieceText, if_neg (Bool.eq_false_iff.mp h)]
      exact readPieces?_of_not_special h cs

theorem readPieces?_flatMap (ps : List Piece) :
    readPieces? (ps.flatMap pieceText) = some ps := by
  induction ps with
  | nil => rfl
  | cons p ps ih => rw [List.flatMap_cons, readPieces?_pieceText, ih, Option.map_some]

theorem ofText?_text (r : Regex) : ofText? r.text = some r := by
  obtain ⟨ignoreCase, ps⟩ := r
  have hanchored : ofAnchored? ignoreCase ('^' :: ps.flatMap pieceText) = some ⟨ignoreCase, ps⟩ := by
    rw [ofAnchored?, readPieces?_flatMap, Option.map_some]
  cases ignoreCase with
  | true => simpa [ofText?, text, flagText] using hanchored
  | false => simpa [ofText?, text, flagText] using hanchored

theorem foundIn_text (r : Regex) (token : String) : foundIn r.text token = r.finds token := by
  rw [foundIn, ofText?_text, Option.any_some]

end RecordSearch.Query.Regex
