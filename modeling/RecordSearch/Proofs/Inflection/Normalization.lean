import RecordSearch.Proofs.Inflection.Endings

/-!
The normal form of a name and the number the name is in. A second `normalize` changes nothing, and
normalizing the plural of a name is normalizing the name, except for the words listed here and for
capitals that the rules write over: `normalize_normalize_eq_iff` and `normalize_pluralize_eq_iff`.
Each follows from what the rules do to small letters, which is examined ending by ending, and from
the letters that a plural replaces.
-/

namespace RecordSearch.Inflection

open RecordSearch.Text

/-! ## Words that the rules lose track of -/

def sisWord : Shape := .ending ["si"]

def sisPlural : Shape :=
  .ending ["analysi", "crisi", "diagnosi", "prognosi", "synopsi", "thesi"]

/-- The word is listed, by itself or by its ending, or it ends in `-si`: then its plural in `-sis`
is taken for a singular, and few plurals in `-ses` are known. -/
def isListed (word ending : Shape) (w : List Char) : Bool :=
  word.matches w || ending.matches w || sisWord.matches w && !sisPlural.matches w

def relapsingWord : Shape :=
  .word ["childrens", "feets", "geeses", "geesis", "mens", "oxens", "peoples", "serys", "specys",
    "teeths", "womens", "zombys"]

def relapsingEnding : Shape := .ending ["movys"]

/-- The normal form has another normal form: it is an irregular plural, it ends in a `-y` whose
plural is irregular or has one form for both numbers, or it ends in `-sis`. -/
def relapses (w : List Char) : Bool := isListed relapsingWord relapsingEnding w

def mistakenWord : Shape := .word ["mouse", "louse"]

def mistakenEnding : Shape := .ending ["octopus", "virus", "axi", "testi"]

/-- The plural is taken for the singular of another word. -/
def mistakesPlural (w : List Char) : Bool := isListed mistakenWord mistakenEnding w

/-! ## Small letters -/

def askListed (word ending : Shape) (t : Reading) (next : Bool → Finding) : Finding :=
  ask word t fun isWord =>
  ask ending t fun isEnding =>
  ask sisWord t fun isSis =>
  ask sisPlural t fun isSisPlural =>
  next (isWord || isEnding || isSis && !isSisPlural)

/-- The normal form and its normal form, and how far the first singular reaches. -/
def relapseExam (t : Reading) : Finding :=
  step pluralRules t fun e p =>
  step singularRules p fun d n =>
  step pluralRules n fun _ q =>
  step singularRules q fun _ m =>
  askListed relapsingWord relapsingEnding t fun relapsing =>
  conclude ((m == n) == !relapsing && (n != t || d.drop.ble e.add.length))

/-- The singular of the plural and that of the plural's plural, and how far the latter reaches. -/
def numberExam (t : Reading) : Finding :=
  step pluralRules t fun _ p =>
  step pluralRules p fun e q =>
  step singularRules p fun d n =>
  step singularRules q fun d' m =>
  askListed mistakenWord mistakenEnding t fun mistaken =>
  conclude ((m == n) == !mistaken &&
    (m != n || q == p && e.drop.beq 0 || n == p && d.drop.beq 0 && d'.drop.ble e.add.length))

section Exams

variable {w : List Char} {t rest : Reading} (hw : w.map lowerAscii = w)
  (ht : t ++ rest = wordReading w)

include ht

theorem askListed_proves {word ending : Shape} {next : Bool → Finding} {Q : Prop}
    (hnext : (next (isListed word ending w)).Proves rest Q) :
    (askListed word ending t next).Proves rest Q :=
  ask_proves ht <| ask_proves ht <| ask_proves ht <| ask_proves ht hnext

include hw

theorem relapseExam_proves : (relapseExam t).Proves rest
    ((normalSegment (normalSegment w) = normalSegment w ↔ relapses w = false) ∧
      (normalSegment w = w → WithinEnding w)) := by
  refine step_proves ht regular_pluralRules hw fun p hp => ?_
  have hplural := map_lowerAscii_inflectSegment_of_small regular_pluralRules hw
  refine step_proves hp regular_singularRules hplural fun n hn => ?_
  have hnormal := map_lowerAscii_inflectSegment_of_small regular_singularRules hplural
  refine step_proves hn regular_pluralRules hnormal fun q hq => ?_
  have hagain := map_lowerAscii_inflectSegment_of_small regular_pluralRules hnormal
  refine step_proves hq regular_singularRules hagain fun m hm => ?_
  refine askListed_proves ht (conclude_proves fun h => ?_)
  rw [Bool.and_eq_true, beq_iff_eq, Bool.or_eq_true, bne_iff_ne] at h
  obtain ⟨hrests, hdrop⟩ := h
  have hsame : m = n ↔ normalSegment (normalSegment w) = normalSegment w := ending_eq_iff hm hn
  have hfixed : n = t ↔ normalSegment w = w := ending_eq_iff hn ht
  constructor
  · rw [← hsame, ← beq_iff_eq, hrests, Bool.not_eq_true', relapses]
  · intro hnormal
    have hle := Nat.le_of_ble_eq_true (hdrop.resolve_left (not_not.mpr (hfixed.mpr hnormal)))
    rwa [Rule.edit, Rule.edit, length_reading] at hle

theorem numberExam_proves : (numberExam t).Proves rest
    ((normalSegment (inflectSegment pluralRules w) = normalSegment w ↔
        mistakesPlural w = false) ∧
      (normalSegment (inflectSegment pluralRules w) = normalSegment w →
        Keeps pluralRules (inflectSegment pluralRules w) ∨
        Keeps singularRules (inflectSegment pluralRules w) ∧
          WithinEnding (inflectSegment pluralRules w))) := by
  refine step_proves ht regular_pluralRules hw fun p hp => ?_
  have hplural := map_lowerAscii_inflectSegment_of_small regular_pluralRules hw
  refine step_proves hp regular_pluralRules hplural fun q hq => ?_
  have hagain := map_lowerAscii_inflectSegment_of_small regular_pluralRules hplural
  refine step_proves hp regular_singularRules hplural fun n hn => ?_
  refine step_proves hq regular_singularRules hagain fun m hm => ?_
  refine askListed_proves ht (conclude_proves fun h => ?_)
  have hsame : m = n ↔ normalSegment (inflectSegment pluralRules w) = normalSegment w :=
    ending_eq_iff hm hn
  simp only [Bool.and_eq_true, beq_iff_eq, Bool.or_eq_true, bne_iff_ne, ne_eq, Nat.beq_eq,
    ending_eq_iff hq hp, ending_eq_iff hn hp] at h
  obtain ⟨hmistaken, hkeeps⟩ := h
  constructor
  · rw [← hsame, ← beq_iff_eq, hmistaken, Bool.not_eq_true', mistakesPlural]
  · intro hnumber
    rcases hkeeps with (hne | ⟨hq, he⟩) | ⟨⟨hn, hd⟩, hle⟩
    · exact absurd (hsame.mpr hnumber) hne
    · exact .inl ⟨he, hq⟩
    · refine .inr ⟨⟨hd, hn⟩, ?_⟩
      have hle := Nat.le_of_ble_eq_true hle
      rwa [Rule.edit, Rule.edit, length_reading] at hle

omit ht

theorem normalSegment_normalSegment_of_small :
    (normalSegment (normalSegment w) = normalSegment w ↔ relapses w = false) ∧
      (normalSegment w = w → WithinEnding w) :=
  have hexplored : explore relapseExam 6 [] = true := by decide +kernel
  forall_words_of_explore relapseExam_proves hexplored hw

theorem normalSegment_plural_of_small :
    (normalSegment (inflectSegment pluralRules w) = normalSegment w ↔
        mistakesPlural w = false) ∧
      (normalSegment (inflectSegment pluralRules w) = normalSegment w →
        Keeps pluralRules (inflectSegment pluralRules w) ∨
        Keeps singularRules (inflectSegment pluralRules w) ∧
          WithinEnding (inflectSegment pluralRules w)) :=
  have hexplored : explore numberExam 6 [] = true := by decide +kernel
  forall_words_of_explore numberExam_proves hexplored hw

end Exams

/-! ## Segments in any case -/

theorem normalSegment_eq_self_iff (segment : List Char) :
    normalSegment segment = segment ↔
      normalSegment (segment.map lowerAscii) = segment.map lowerAscii ∧
        ∀ c ∈ replaced pluralRules segment, lowerAscii c = c := by
  have hwithin := (normalSegment_normalSegment_of_small (map_lowerAscii_map_lowerAscii segment)).2
  constructor
  · intro h
    have hlower := congrArg (List.map lowerAscii) h
    rw [map_lowerAscii_normalSegment] at hlower
    exact ⟨hlower, ((hwithin hlower).normalSegment_eq_self_iff hlower).mp h⟩
  · rintro ⟨hlower, hsmall⟩
    exact ((hwithin hlower).normalSegment_eq_self_iff hlower).mpr hsmall

theorem normalSegment_normalSegment_eq_iff (segment : List Char) :
    normalSegment (normalSegment segment) = normalSegment segment ↔
      relapses (segment.map lowerAscii) = false ∧
        ∀ c ∈ replaced pluralRules (normalSegment segment), lowerAscii c = c := by
  have hsmall := normalSegment_normalSegment_of_small (map_lowerAscii_map_lowerAscii segment)
  rw [normalSegment_eq_self_iff, map_lowerAscii_normalSegment, hsmall.1]

theorem normalSegment_plural_eq_iff (segment : List Char) :
    normalSegment (inflectSegment pluralRules segment) = normalSegment segment ↔
      mistakesPlural (segment.map lowerAscii) = false ∧
        ∀ c ∈ replaced pluralRules (inflectSegment pluralRules segment), lowerAscii c = c := by
  obtain ⟨hmistaken, hkeeps⟩ :=
    normalSegment_plural_of_small (map_lowerAscii_map_lowerAscii segment)
  rw [← map_lowerAscii_inflectSegment regular_pluralRules] at hmistaken hkeeps
  have hnormal : normalSegment segment =
      inflectSegment singularRules (inflectSegment pluralRules segment) := rfl
  generalize inflectSegment pluralRules segment = plural at hmistaken hkeeps hnormal ⊢
  rw [← map_lowerAscii_normalSegment, ← map_lowerAscii_normalSegment] at hmistaken hkeeps
  by_cases hlower : (normalSegment plural).map lowerAscii = (normalSegment segment).map lowerAscii
  · rw [hmistaken.mp hlower, eq_self, true_and]
    rcases hkeeps hlower with hkeep | ⟨hkeep, -⟩
    · have hsame : normalSegment plural = normalSegment segment := by
        rw [normalSegment, hkeep.inflectSegment_eq, hnormal]
      simp [hsame, hkeep.replaced_eq_nil]
    · rw [hnormal, hkeep.inflectSegment_eq, map_lowerAscii_normalSegment] at hlower
      rw [hnormal, hkeep.inflectSegment_eq, normalSegment_eq_self_iff]
      exact and_iff_right hlower
  · refine iff_of_false (fun h => hlower (congrArg _ h)) fun h => hlower (hmistaken.mpr h.1)

/-! ## Names -/

theorem lastSegment_normalize (name : String) :
    lastSegment (normalize name) = normalSegment (lastSegment name) := by
  rw [lastSegment, splitSegment_normalize]

theorem lastSegment_pluralize (name : String) :
    lastSegment (pluralize name) = inflectLast pluralRules (lastSegment name) := by
  rw [lastSegment, pluralize, splitSegment_inflect regular_pluralRules]

theorem normalize_normalize_eq_iff (name : String) :
    normalize (normalize name) = normalize name ↔
      relapses ((lastSegment name).map lowerAscii) = false ∧
        ∀ c ∈ replaced pluralRules (lastSegment (normalize name)), lowerAscii c = c := by
  rw [eq_iff_splitSegment_eq, splitSegment_normalize (normalize name), lastSegment_normalize,
    ← normalSegment_normalSegment_eq_iff, splitSegment_normalize name]
  simp

example : normalize "KNIFES" = "KNIFE" ∧ normalize "KNIFE" = "KNIfe" := by decide +kernel

theorem not_forall_normalize_normalize_eq :
    ¬ ∀ name, normalize (normalize name) = normalize name := by
  intro h
  have hmens := h "mens"
  revert hmens
  decide +kernel

theorem normalize_pluralize_eq_iff (name : String) :
    normalize (pluralize name) = normalize name ↔
      mistakesPlural ((lastSegment name).map lowerAscii) = false ∧
        ∀ c ∈ replaced pluralRules (lastSegment (pluralize name)), lowerAscii c = c := by
  have hsegment : normalize (pluralize name) = normalize name ↔
      normalSegment (lastSegment (pluralize name)) = normalSegment (lastSegment name) := by
    rw [eq_iff_splitSegment_eq, splitSegment_normalize (pluralize name),
      splitSegment_normalize name, pluralize, splitSegment_inflect regular_pluralRules name,
      Prod.mk.injEq, eq_self, true_and]
  rw [hsegment, lastSegment_pluralize, inflectLast]
  split
  · rename_i hnil
    have hword : mistakesPlural [] = false := by decide +kernel
    simp [hnil, hword, replaced]
  · exact normalSegment_plural_eq_iff _

theorem not_forall_normalize_pluralize_eq :
    ¬ ∀ name, normalize (pluralize name) = normalize name := by
  intro h
  have hvirus := h "virus"
  revert hvirus
  decide +kernel

end RecordSearch.Inflection
