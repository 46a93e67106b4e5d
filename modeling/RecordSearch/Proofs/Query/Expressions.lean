import RecordSearch.Proofs.Query.Matching
import RecordSearch.Proofs.Text.AsciiCase

/-!
Where the expression of a pattern has a match. It has one in a token if it takes the field of the
token and the word occurs in the rest of the line (`finds_regex_iff`). On ASCII texts it agrees with
the pattern (`finds_regex_eq_matchesToken`), but for two things that it takes differently: it ignores
the case of a name too, and it takes no empty field.
-/

namespace RecordSearch.Query

open RecordSearch.Text RecordSearch.Index

/-! ## Pieces -/

namespace Regex

theorem sameLetter_true_iff {a b : Char} :
    sameLetter true a b = true ↔ lowerAscii a = lowerAscii b := by
  simp [sameLetter]

theorem matchesAt_colon_iff {ps : List Piece} {cs : List Char} :
    matchesAt true (.literal ':' :: ps) cs = true ↔
      ∃ rest, cs = ':' :: rest ∧ matchesAt true ps rest = true := by
  cases cs with
  | nil => simp [matchesAt]
  | cons c cs =>
    have hself : lowerAscii ':' = ':' := lowerAscii_eq_colon_iff.mpr rfl
    have hcolon : ':' = lowerAscii c ↔ c = ':' := eq_comm.trans lowerAscii_eq_colon_iff
    simp [matchesAt, sameLetter_true_iff, hself, hcolon]

theorem matchesAt_literals_iff {text : List Char} {ps : List Piece} {cs : List Char} :
    matchesAt true (text.map .literal ++ ps) cs = true ↔
      ∃ front rest, cs = front ++ rest ∧ front.map lowerAscii = text.map lowerAscii ∧
        matchesAt true ps rest = true := by
  induction text generalizing cs with
  | nil => simp
  | cons d text ih =>
    cases cs with
    | nil => simp [matchesAt]
    | cons c cs =>
      rw [List.map_cons, List.cons_append, matchesAt, Bool.and_eq_true, sameLetter_true_iff, ih]
      constructor
      · rintro ⟨hc, front, rest, rfl, hfront, hrest⟩
        exact ⟨c :: front, rest, rfl, by simp [hc, hfront], hrest⟩
      · rintro ⟨front, rest, hcs, hfront, hrest⟩
        cases front with
        | nil => cases hfront
        | cons e front =>
          obtain ⟨rfl, rfl⟩ := List.cons.inj hcs
          obtain ⟨hc, htext⟩ := List.cons.inj hfront
          exact ⟨hc.symm, front, rest, rfl, htext, hrest⟩

/-- A word is found anywhere in the rest of a line. -/
theorem matchesAt_word_iff {word cs : List Char} (hline : '\n' ∉ cs) :
    matchesAt true (.anything :: word.map .literal) cs = true ↔
      word.map lowerAscii <:+: cs.map lowerAscii := by
  rw [← List.append_nil (word.map _), matchesAt, afterRun_iff]
  constructor
  · rintro ⟨before, rest, rfl, -, hrest⟩
    obtain ⟨front, after, rfl, hfront, -⟩ := matchesAt_literals_iff.mp hrest
    exact ⟨before.map lowerAscii, after.map lowerAscii, by simp [hfront]⟩
  · rintro ⟨x, y, hcs⟩
    obtain ⟨upto, after, rfl, hupto, -⟩ := List.map_eq_append_iff.mp hcs.symm
    obtain ⟨before, front, rfl, -, hfront⟩ := List.map_eq_append_iff.mp hupto
    rw [List.append_assoc] at hline ⊢
    refine ⟨before, front ++ after, rfl, fun c hc => ?_, ?_⟩
    · have hne : c ≠ '\n' := fun h => hline (h ▸ List.mem_append_left _ hc)
      simpa using hne
    · exact matchesAt_literals_iff.mpr ⟨front, after, rfl, hfront, rfl⟩

theorem matchesAt_noColon_iff {ps : List Piece} {cs : List Char} :
    matchesAt true (.noColon :: ps) cs = true ↔
      ∃ front rest, cs = front ++ rest ∧ front ≠ [] ∧ ':' ∉ front ∧
        matchesAt true ps rest = true := by
  cases cs with
  | nil => simp [matchesAt]
  | cons c cs =>
    rw [matchesAt, Bool.and_eq_true, afterRun_iff]
    constructor
    · rintro ⟨hc, front, rest, rfl, hfront, hrest⟩
      have hcolon : ':' ∉ c :: front := by
        rintro hmem
        rcases List.mem_cons.mp hmem with rfl | hmem
        · cases hc
        · cases hfront _ hmem
      exact ⟨c :: front, rest, rfl, List.cons_ne_nil _ _, hcolon, hrest⟩
    · rintro ⟨front, rest, hcs, hne, hcolon, hrest⟩
      cases front with
      | nil => exact absurd rfl hne
      | cons d front =>
        obtain ⟨rfl, rfl⟩ := List.cons.inj hcs
        simp only [List.mem_cons, not_or] at hcolon
        refine ⟨by simpa using Ne.symm hcolon.1, front, rest, rfl, fun e he => ?_, hrest⟩
        have hne' : e ≠ ':' := fun h => hcolon.2 (h ▸ he)
        simpa using hne'

end Regex

/-! ## Fields -/

/-- What the expression of a pattern asks of the field of a token. -/
def Scope.Takes (field : List Char) : Scope → Prop
  | .exact name => field.map lowerAscii = name.toList.map lowerAscii
  | .any => field ≠ []

namespace Pattern

open Regex

theorem matchesAt_scopePieces_iff {scope : Scope}
    (hname : ∀ name ∈ scope.name?, ':' ∉ name.toList) {ps : List Piece} {cs field rest : List Char}
    (hsplit : splitAtFirst ':' cs = some (field, rest)) :
    matchesAt true (scopePieces scope ++ .literal ':' :: ps) cs = true ↔
      scope.Takes field ∧ matchesAt true ps rest = true := by
  -- the text before a colon without another one in it is the field
  have hfront : ∀ front after, cs = front ++ ':' :: after → ':' ∉ front →
      front = field ∧ after = rest := fun front after hcs hcolon => by
    rw [splitAtFirst_eq_some_iff.mpr ⟨hcs, hcolon⟩] at hsplit
    simpa using hsplit
  obtain ⟨hcs, hfield⟩ := splitAtFirst_eq_some_iff.mp hsplit
  have hcolon : matchesAt true (.literal ':' :: ps) (':' :: rest) = true ↔
      matchesAt true ps rest = true := by simp [matchesAt_colon_iff]
  cases scope with
  | exact name =>
    rw [scopePieces, matchesAt_literals_iff]
    constructor
    · rintro ⟨front, after, hsame, hcase, hafter⟩
      obtain ⟨after, rfl, hps⟩ := matchesAt_colon_iff.mp hafter
      have hno : ':' ∉ front := by
        have hmem := hname name rfl
        rwa [← colon_mem_map_lowerAscii_iff, ← hcase, colon_mem_map_lowerAscii_iff] at hmem
      obtain ⟨rfl, rfl⟩ := hfront front after hsame hno
      exact ⟨hcase, hps⟩
    · rintro ⟨hcase, hps⟩
      exact ⟨field, ':' :: rest, hcs, hcase, hcolon.mpr hps⟩
  | any =>
    rw [scopePieces, List.singleton_append, matchesAt_noColon_iff]
    constructor
    · rintro ⟨front, after, hsame, hne, hno, hafter⟩
      obtain ⟨after, rfl, hps⟩ := matchesAt_colon_iff.mp hafter
      obtain ⟨rfl, rfl⟩ := hfront front after hsame hno
      exact ⟨hne, hps⟩
    · rintro ⟨hne, hps⟩
      exact ⟨field, ':' :: rest, hcs, hne, hfield, hcolon.mpr hps⟩

theorem takes_ofField_iff {field : Option String} {front : List Char} (hne : front ≠ [])
    (hcase : ∀ name ∈ field, lowerChars name.toList = lowerChars front → name.toList = front) :
    (Scope.ofField field).Takes front ↔
      (Scope.ofField field).accepts (String.ofList front) = true := by
  rw [accepts_ofField_iff]
  cases field with
  | none => simp [Scope.ofField, Scope.Takes, hne]
  | some name =>
    rw [Scope.ofField, Scope.Takes]
    constructor
    · intro htakes f hf
      obtain rfl : name = f := by simpa using hf
      have hlower : lowerChars name.toList = lowerChars front := by
        rw [← lowerChars_map_lowerAscii, ← htakes, lowerChars_map_lowerAscii]
      rw [← hcase name rfl hlower, String.ofList_toList]
    · intro haccepts
      rw [haccepts name rfl, String.toList_ofList]

/-! ## Tokens -/

section

variable {field : Option String} {word token : String} {front rest : List Char}
  (hname : ∀ name ∈ field, ':' ∉ name.toList)
  (hsplit : splitAtFirst ':' token.toList = some (front, rest)) (hline : '\n' ∉ rest)

include hname hsplit hline

theorem finds_regex_iff :
    (ofWord field word).regex.finds token = true ↔ (Scope.ofField field).Takes front ∧
      (lowerChars word.toList).map lowerAscii <:+: rest.map lowerAscii := by
  have hscope : ∀ name ∈ (Scope.ofField field).name?, ':' ∉ name.toList := by
    cases field with
    | none => simp [Scope.ofField, Scope.name?]
    | some f => simpa [Scope.ofField, Scope.name?] using hname
  rw [Regex.finds, regex, ofWord]
  simp only
  rw [matchesAt_scopePieces_iff hscope hsplit, matchesAt_word_iff hline, toList_lower]

/-- On ASCII texts, if the field is not empty and is not a name in another case. -/
theorem finds_regex_eq_matchesToken (hword : IsAscii word.toList) (hrest : IsAscii rest)
    (hne : front ≠ [])
    (hcase : ∀ name ∈ field, lowerChars name.toList = lowerChars front → name.toList = front) :
    (ofWord field word).regex.finds token = (ofWord field word).matchesToken token := by
  have hfield := takes_ofField_iff hne hcase
  have hoccurs : (lowerChars word.toList).map lowerAscii <:+: rest.map lowerAscii ↔
      (ofWord field word).wordOccursIn rest = true := by
    rw [wordOccursIn_ofWord_iff, lowerChars_of_ascii hword, lowerChars_of_ascii hrest,
      map_lowerAscii_map_lowerAscii]
  rw [Bool.eq_iff_iff, finds_regex_iff hname hsplit hline, hfield, hoccurs, matchesToken, hsplit]
  exact Bool.and_eq_true_iff.symm

end

end Pattern

end RecordSearch.Query
