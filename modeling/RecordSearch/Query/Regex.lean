import RecordSearch.Text.Lowercase

/-!
The regular expressions that patterns are handed to a storage engine as: anchored at the start of a
token, made of literal characters, runs without a colon and arbitrary runs. `text` writes one in the
usual notation; `finds` says whether it has a match in a token, where `.` is any character but a
newline and the case flag concerns ASCII letters.
-/

namespace RecordSearch.Query

open RecordSearch.Text

/-- One part of an expression. -/
inductive Piece where
  /-- This character. -/
  | literal (c : Char)
  /-- One or more characters other than a colon. -/
  | noColon
  /-- Any characters. -/
  | anything
  deriving DecidableEq, Repr

structure Regex where
  ignoreCase : Bool
  pieces : List Piece
  deriving DecidableEq, Repr

namespace Regex

/-! ## Notation -/

/-- The characters that are not literal as they are. -/
def special : List Char :=
  ['\\', '.', '+', '*', '?', '(', ')', '|', '[', ']', '{', '}', '^', '$', '#', '&', '-', '~']

def pieceText : Piece → List Char
  | .literal c => if special.contains c then ['\\', c] else [c]
  | .noColon => ['[', '^', ':', ']', '+']
  | .anything => ['.', '*']

def flagText (ignoreCase : Bool) : List Char :=
  if ignoreCase then ['(', '?', 'i', ')'] else []

def text (r : Regex) : String :=
  String.ofList (flagText r.ignoreCase ++ '^' :: r.pieces.flatMap pieceText)

/-! ## Meaning -/

def sameLetter (ignoreCase : Bool) (a b : Char) : Bool :=
  if ignoreCase then lowerAscii a == lowerAscii b else a == b

/-- `next` holds after some number of characters that `ok` accepts. -/
def afterRun (ok : Char → Bool) (next : List Char → Bool) : List Char → Bool
  | [] => next []
  | c :: cs => next (c :: cs) || (ok c && afterRun ok next cs)

/-- The pieces match at the start of a text. -/
def matchesAt (ignoreCase : Bool) : List Piece → List Char → Bool
  | [], _ => true
  | .literal _ :: _, [] => false
  | .literal p :: ps, c :: cs => sameLetter ignoreCase p c && matchesAt ignoreCase ps cs
  | .noColon :: _, [] => false
  | .noColon :: ps, c :: cs => c != ':' && afterRun (· != ':') (matchesAt ignoreCase ps) cs
  | .anything :: ps, cs => afterRun (· != '\n') (matchesAt ignoreCase ps) cs

def finds (r : Regex) (token : String) : Bool := matchesAt r.ignoreCase r.pieces token.toList

theorem afterRun_iff {ok : Char → Bool} {next : List Char → Bool} {cs : List Char} :
    afterRun ok next cs = true ↔
      ∃ a b, cs = a ++ b ∧ (∀ c ∈ a, ok c = true) ∧ next b = true := by
  induction cs with
  | nil =>
    constructor
    · exact fun h => ⟨[], [], rfl, by simp, h⟩
    · rintro ⟨a, b, h, -, hb⟩
      obtain ⟨-, rfl⟩ := List.nil_eq_append_iff.mp h
      exact hb
  | cons c cs ih =>
    simp only [afterRun, Bool.or_eq_true, Bool.and_eq_true, ih]
    constructor
    · rintro (h | ⟨hc, a, b, rfl, ha, hb⟩)
      · exact ⟨[], c :: cs, rfl, by simp, h⟩
      · exact ⟨c :: a, b, rfl, by simpa using ⟨hc, ha⟩, hb⟩
    · rintro ⟨a, b, h, ha, hb⟩
      cases a with
      | nil => exact Or.inl (by simpa [h] using hb)
      | cons d a =>
        simp only [List.cons_append, List.cons.injEq] at h
        obtain ⟨rfl, rfl⟩ := h
        exact Or.inr ⟨ha c (List.mem_cons_self ..), a, b, rfl,
          fun x hx => ha x (List.mem_cons_of_mem _ hx), hb⟩

end Regex

end RecordSearch.Query
