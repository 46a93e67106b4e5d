import Mathlib.Data.List.Find
import Mathlib.Data.List.Infix
import RecordSearch.Proofs.Inflection.Segments

/-!
Inflection of words of which only the ending is known. A rule compares the end of a word with texts;
when words are read from the last character back, it compares prefixes (`Shape.matches_eq_verdict`). What
the rules do to a word they do to its ending, unless the word goes on to a longer text of theirs
(`lookup_eq`).

So a property of a word, and of the words that the rules make of it one after the other, holds of
all words once it is examined at finitely many endings. `explore` examines an ending and then the
longer ones at which the rules could have found something else; `explore_sound` says that this
misses no word.
-/

namespace RecordSearch.Inflection

open RecordSearch.Text

/-! ## Words read from the end -/

/-- A text from its last character to its first, each as its code point plus one. Behind the first
character of a whole word stands `0`. -/
abbrev Reading := List Nat

def code (c : Char) : Nat := c.toNat + 1

def reading (s : List Char) : Reading := (s.map code).reverse

def wordReading (w : List Char) : Reading := reading w ++ [0]

theorem code_injective : Function.Injective code := fun _ _ h => Char.toNat_inj.mp (Nat.succ.inj h)

theorem zero_not_mem_map_code (w : List Char) : 0 ∉ w.map code := by
  simp [code]

theorem wordReading_eq_reverse (w : List Char) : wordReading w = (0 :: w.map code).reverse := by
  simp [wordReading, reading]

@[simp] theorem reading_append (s t : List Char) : reading (s ++ t) = reading t ++ reading s := by
  simp [reading]

@[simp] theorem length_reading (s : List Char) : (reading s).length = s.length := by
  simp [reading]

theorem reading_injective : Function.Injective reading := fun _ _ h =>
  List.map_injective_iff.mpr code_injective (List.reverse_injective h)

theorem wordReading_injective : Function.Injective wordReading := fun _ _ h =>
  reading_injective (List.append_cancel_right h)

/-- Two words with the same rest before their known endings. -/
theorem ending_eq_iff {a b : List Char} {x y rest : Reading} (hx : x ++ rest = wordReading a)
    (hy : y ++ rest = wordReading b) : x = y ↔ a = b := by
  rw [← wordReading_injective.eq_iff, ← hx, ← hy, List.append_cancel_right_eq]

theorem isPrefixOf_wordReading (s w : List Char) :
    (reading s).isPrefixOf (wordReading w) = s.isSuffixOf w := by
  have hmark : s.map code ≠ 0 :: w.map code := fun h =>
    zero_not_mem_map_code s (h ▸ List.mem_cons_self)
  rw [Bool.eq_iff_iff, List.isPrefixOf_iff_prefix, List.isSuffixOf_iff_suffix,
    wordReading_eq_reverse, reading, List.reverse_prefix, List.suffix_cons_iff,
    or_iff_right hmark, List.suffix_map_iff_of_injective code_injective]

theorem wordReading_isPrefixOf_wordReading (s w : List Char) :
    (wordReading s).isPrefixOf (wordReading w) = (s == w) := by
  have hmark : ¬ 0 :: s.map code <:+ w.map code := fun h =>
    zero_not_mem_map_code w (h.subset List.mem_cons_self)
  rw [Bool.eq_iff_iff, List.isPrefixOf_iff_prefix, beq_iff_eq, wordReading_eq_reverse,
    wordReading_eq_reverse, List.reverse_prefix, List.suffix_cons_iff, or_iff_left hmark,
    List.cons.injEq, (List.map_injective_iff.mpr code_injective).eq_iff]
  exact and_iff_right rfl

/-! ## Shapes as comparisons -/

/-- A text, and what it says about a word that ends in it. -/
structure Comparison where
  text : Reading
  verdict : Bool

/-- The first text in which the word ends decides. -/
def verdict : List Comparison → Reading → Bool
  | [], _ => false
  | c :: cs, r => bif c.text.isPrefixOf r then c.verdict else verdict cs r

theorem verdict_congr {cs : List Comparison} {r r' : Reading}
    (h : ∀ c ∈ cs, c.text.isPrefixOf r = c.text.isPrefixOf r') : verdict cs r = verdict cs r' := by
  induction cs with
  | nil => rfl
  | cons c cs ih =>
    obtain ⟨hc, hcs⟩ := List.forall_mem_cons.mp h
    rw [verdict, verdict, hc, ih hcs]

theorem verdict_map_true {α : Type} (text : α → Reading) (xs : List α) (r : Reading) :
    verdict (xs.map fun x => ⟨text x, true⟩) r = xs.any fun x => (text x).isPrefixOf r := by
  induction xs with
  | nil => rfl
  | cons x xs ih =>
    rw [List.map_cons, verdict, ih, List.any_cons]
    cases (text x).isPrefixOf r <;> rfl

theorem verdict_map_false_append {α : Type} (text : α → Reading) (xs : List α)
    (cs : List Comparison) (r : Reading) :
    verdict (xs.map (fun x => ⟨text x, false⟩) ++ cs) r =
      (!(xs.any fun x => (text x).isPrefixOf r) && verdict cs r) := by
  induction xs with
  | nil => rfl
  | cons x xs ih =>
    rw [List.map_cons, List.cons_append, verdict, ih, List.any_cons]
    cases (text x).isPrefixOf r <;> rfl

theorem append_isSuffixOf_append (t pre s : List Char) :
    (t ++ s).isSuffixOf (pre ++ s) = t.isSuffixOf pre := by
  rw [Bool.eq_iff_iff, List.isSuffixOf_iff_suffix, List.isSuffixOf_iff_suffix,
    List.suffix_append_self_iff]

theorem endsInConsonant_eq (pre s : List Char) :
    endsInConsonant pre = (['q', 'u'].isSuffixOf pre || !(s == pre ++ s) &&
      !("aeiouy".toList.any fun v => [v].isSuffixOf pre)) := by
  rcases List.eq_nil_or_concat' pre with rfl | ⟨init, c, rfl⟩
  · simp [endsInConsonant]
  · have hlast : ("aeiouy".toList.any fun v => [v].isSuffixOf (init ++ [c])) = isVowel c := by
      rw [isVowel, Bool.eq_iff_iff, List.any_eq_true, List.contains_iff_mem]
      simp [List.singleton_suffix_append_singleton_iff]
    have hlonger : (s == init ++ [c] ++ s) = false := by
      refine beq_false_of_ne fun h => ?_
      have hlength := congrArg List.length h
      simp only [List.length_append, List.length_singleton] at hlength
      omega
    rw [endsInConsonant, List.getLast?_concat, hlast, hlonger]
    simp [Bool.or_comm]

namespace Shape

theorem matches_afterConsonant (suffix : String) (w : List Char) :
    (afterConsonant suffix).matches w = (('q' :: 'u' :: suffix.toList).isSuffixOf w ||
      !(suffix.toList == w) && (!("aeiouy".toList.any fun v => (v :: suffix.toList).isSuffixOf w) &&
        suffix.toList.isSuffixOf w)) := by
  rw [Shape.matches, stem?]
  generalize suffix.toList = s
  by_cases hs : s <:+ w
  · obtain ⟨pre, rfl⟩ := hs
    have hself : s.isSuffixOf (pre ++ s) = true :=
      List.isSuffixOf_iff_suffix.mpr (List.suffix_append pre s)
    have hstem : (pre ++ s).take ((pre ++ s).length - s.length) = pre := by
      simp
    have hq := append_isSuffixOf_append ['q', 'u'] pre s
    have hv (v : Char) := append_isSuffixOf_append [v] pre s
    simp only [List.cons_append, List.nil_append] at hq hv
    simp only [hself, hstem, hq, hv, if_true, Option.map_some, Option.getD_some, Bool.and_true]
    exact endsInConsonant_eq pre s
  · have hlonger {t : List Char} (ht : s <:+ t) : t.isSuffixOf w = false := by
      rw [Bool.eq_false_iff, ne_eq, List.isSuffixOf_iff_suffix]
      exact fun h => hs (ht.trans h)
    have hq : ('q' :: 'u' :: s).isSuffixOf w = false :=
      hlonger ((List.suffix_cons _ _).trans (List.suffix_cons _ _))
    simp [hlonger List.suffix_rfl, hq]

def comparisons : Shape → List Comparison
  | word ws => ws.map fun w => ⟨wordReading w.toList, true⟩
  | ending suffixes => suffixes.map fun s => ⟨reading s.toList, true⟩
  | afterConsonant s =>
    ⟨reading ('q' :: 'u' :: s.toList), true⟩ :: ⟨wordReading s.toList, false⟩ ::
      ("aeiouy".toList.map (fun v => ⟨reading (v :: s.toList), false⟩) ++
        [⟨reading s.toList, true⟩])

theorem matches_eq_verdict (shape : Shape) (w : List Char) :
    shape.matches w = verdict shape.comparisons (wordReading w) := by
  cases shape with
  | word ws =>
    rw [comparisons, verdict_map_true, Shape.matches]
    simp only [wordReading_isPrefixOf_wordReading]
  | ending suffixes =>
    rw [comparisons, verdict_map_true, Shape.matches]
    simp only [isPrefixOf_wordReading]
  | afterConsonant s =>
    rw [comparisons, verdict, verdict, verdict_map_false_append, verdict, matches_afterConsonant]
    simp only [isPrefixOf_wordReading, wordReading_isPrefixOf_wordReading, verdict]
    cases ('q' :: 'u' :: s.toList).isSuffixOf w <;> cases s.toList == w <;> simp

end Shape

/-! ## Rules as edits -/

/-- How many characters a rule takes from the end of a word, and what it puts there. -/
structure Edit where
  drop : Nat
  add : Reading

def Edit.apply (e : Edit) (r : Reading) : Reading := e.add ++ r.drop e.drop

structure Entry where
  comparisons : List Comparison
  edit : Edit

namespace Rule

def edit (r : Rule) : Edit := ⟨r.drop, reading r.add.toList⟩

def entry (r : Rule) : Entry := ⟨r.shape.comparisons, r.edit⟩

end Rule

/-- The edit of the first entry that applies. -/
def chosen (es : List Entry) (r : Reading) : Edit :=
  ((es.find? fun e => verdict e.comparisons r).map (·.edit)).getD ⟨0, []⟩

def editOf (rules : List Rule) (r : Reading) : Edit := chosen (rules.map Rule.entry) r

theorem editOf_wordReading (rules : List Rule) (w : List Char) :
    editOf rules (wordReading w) = (firstRule rules w).edit := by
  rw [editOf, chosen, List.find?_map, firstRule]
  simp only [Function.comp_def, Rule.entry, ← Shape.matches_eq_verdict]
  cases rules.find? (·.shape.matches w) <;> simp [keep, Rule.entry, Rule.edit, reading]

theorem wordReading_inflectSegment {rules : List Rule} (hrules : Regular rules) {w : List Char}
    (hw : w.map lowerAscii = w) :
    wordReading (inflectSegment rules w) = (firstRule rules w).edit.apply (wordReading w) := by
  have hdrop := (regular_firstRule hrules w).2
  have hkept : reading (w.take (w.length - (firstRule rules w).drop)) =
      (reading w).drop (firstRule rules w).drop := by
    rw [reading, reading, List.drop_reverse, List.length_map, List.map_take]
  rw [inflectSegment_eq_kept_append, kept, hw, Edit.apply, Rule.edit, wordReading, wordReading,
    reading_append, hkept, List.drop_append_of_le_length (by simpa using hdrop), List.append_assoc]

/-! ## Known endings -/

/-- None of these texts follows. -/
def Avoids (texts : List Reading) (rest : Reading) : Prop := ∀ o ∈ texts, ¬ o <+: rest

theorem avoids_append_iff {xs ys : List Reading} {rest : Reading} :
    Avoids (xs ++ ys) rest ↔ Avoids xs rest ∧ Avoids ys rest := by
  simp only [Avoids, List.forall_mem_append]

/-- How a word that is known to end in `t` may go on to one of the texts. -/
def openings (t : Reading) (cs : List Comparison) : List Reading :=
  cs.filterMap fun c => (t.isPrefixOf? c.text).filter (!·.isEmpty)

theorem mem_openings_iff {t o : Reading} {cs : List Comparison} :
    o ∈ openings t cs ↔ o ≠ [] ∧ ∃ c ∈ cs, c.text = t ++ o := by
  simp only [openings, List.mem_filterMap, Option.filter_eq_some_iff,
    List.isPrefixOf?_eq_some_iff_append_eq, Bool.not_eq_true', List.isEmpty_eq_false_iff]
  exact ⟨fun ⟨c, hc, htext, hne⟩ => ⟨hne, c, hc, htext.symm⟩,
    fun ⟨hne, c, hc, htext⟩ => ⟨c, hc, htext.symm, hne⟩⟩

theorem verdict_append {t rest : Reading} {cs : List Comparison}
    (h : Avoids (openings t cs) rest) : verdict cs (t ++ rest) = verdict cs t := by
  refine verdict_congr fun c hc => ?_
  rw [Bool.eq_iff_iff, List.isPrefixOf_iff_prefix, List.isPrefixOf_iff_prefix]
  refine ⟨fun htext => ?_, fun htext => htext.trans (List.prefix_append t rest)⟩
  rcases List.prefix_or_prefix_of_prefix htext (List.prefix_append t rest) with hshort | ⟨o, ho⟩
  · exact hshort
  · have hfollows : o <+: rest := by
      rwa [← ho, List.prefix_append_right_inj] at htext
    by_cases hnil : o = []
    · rw [← ho, hnil, List.append_nil]
    · exact absurd hfollows (h o (mem_openings_iff.mpr ⟨hnil, c, hc, ho.symm⟩))

/-- The edit for a word that is known to end in `t`, and the openings of all that was compared. -/
def lookup (t : Reading) : List Entry → Edit × List Reading
  | [] => (⟨0, []⟩, [])
  | e :: es =>
    bif verdict e.comparisons t then (e.edit, openings t e.comparisons)
    else ((lookup t es).1, openings t e.comparisons ++ (lookup t es).2)

theorem lookup_eq {t rest : Reading} {es : List Entry} (h : Avoids (lookup t es).2 rest) :
    chosen es (t ++ rest) = (lookup t es).1 := by
  induction es with
  | nil => rfl
  | cons e es ih =>
    rw [chosen, List.find?_cons]
    cases hv : verdict e.comparisons t with
    | true =>
      simp only [lookup, hv, cond_true] at h ⊢
      simp [verdict_append h, hv]
    | false =>
      simp only [lookup, hv, cond_false, avoids_append_iff] at h ⊢
      simp [verdict_append h.1, hv, ← ih h.2, chosen]

/-! ## Rules for one last character -/

/-- The text is empty or starts with `c`. -/
def Comparison.mayApply (c : Nat) (x : Comparison) : Bool := x.text.head?.all (·.beq c)

theorem verdict_filter_mayApply (cs : List Comparison) (c : Nat) (r : Reading) :
    verdict (cs.filter (·.mayApply c)) (c :: r) = verdict cs (c :: r) := by
  induction cs with
  | nil => rfl
  | cons x cs ih =>
    cases hx : x.mayApply c with
    | true => rw [List.filter_cons_of_pos hx, verdict, verdict, ih]
    | false =>
      have htext : x.text.isPrefixOf (c :: r) = false := by
        cases h : x.text with
        | nil => simp [Comparison.mayApply, h] at hx
        | cons d t =>
          have hd : d ≠ c := by
            rintro rfl
            simp [Comparison.mayApply, h] at hx
          rw [List.isPrefixOf, beq_false_of_ne hd, Bool.false_and]
      rw [List.filter_cons_of_neg (by simp [hx]), verdict, htext, ih, cond_false]

/-- The comparisons that matter for words ending in `t`. -/
def Shape.comparisonsFor (shape : Shape) : Reading → List Comparison
  | [] => shape.comparisons
  | c :: _ => shape.comparisons.filter (·.mayApply c)

theorem Shape.verdict_comparisonsFor (shape : Shape) (t rest : Reading) :
    verdict (shape.comparisonsFor t) (t ++ rest) = verdict shape.comparisons (t ++ rest) := by
  cases t with
  | nil => rfl
  | cons c t => exact verdict_filter_mayApply _ _ _

/-- The entries that matter for words ending in `t`. -/
def entriesFor (rules : List Rule) : Reading → List Entry
  | [] => rules.map Rule.entry
  | c :: _ => (rules.map fun r => ⟨r.shape.comparisons.filter (·.mayApply c), r.edit⟩).filter
      (!·.comparisons.isEmpty)

theorem chosen_entriesFor (rules : List Rule) (t rest : Reading) :
    chosen (entriesFor rules t) (t ++ rest) = editOf rules (t ++ rest) := by
  cases t with
  | nil => rfl
  | cons c t =>
    have happlies (cs : List Comparison) :
        decide ((!(cs.filter (·.mayApply c)).isEmpty) = true ∧
          verdict (cs.filter (·.mayApply c)) (c :: (t ++ rest)) = true) =
        verdict cs (c :: (t ++ rest)) := by
      rw [← verdict_filter_mayApply cs]
      cases cs.filter (·.mayApply c) <;> simp [verdict]
    rw [entriesFor, chosen, List.find?_filter, List.find?_map, editOf, chosen, List.find?_map,
      Option.map_map, Option.map_map]
    simp only [Function.comp_def, List.cons_append, happlies]
    rfl

/-! ## Evaluation -/

/- The kernel passes arguments on as they are written. These pass on their values, so that what has
been found for one word or letter is found again for the next without being computed anew. -/

def withValue {α : Type} (n : Nat) (f : Nat → α) : α :=
  match n with
  | 0 => f 0
  | k + 1 => f (k + 1)

@[simp] theorem withValue_eq {α : Type} (n : Nat) (f : Nat → α) : withValue n f = f n := by
  cases n <;> rfl

def withReading {α : Type} : Reading → (Reading → α) → α
  | [], f => f []
  | a :: r, f => withValue a fun a => withReading r fun r => f (a :: r)

@[simp] theorem withReading_eq {α : Type} (r : Reading) (f : Reading → α) :
    withReading r f = f r := by
  induction r generalizing f with
  | nil => rfl
  | cons a r ih => simp [withReading, ih]

def withReadings {α : Type} : List Reading → (List Reading → α) → α
  | [], f => f []
  | r :: rs, f => withReading r fun r => withReadings rs fun rs => f (r :: rs)

@[simp] theorem withReadings_eq {α : Type} (rs : List Reading) (f : List Reading → α) :
    withReadings rs f = f rs := by
  induction rs generalizing f with
  | nil => rfl
  | cons r rs ih => simp [withReadings, ih]

/-! ## Examinations -/

/-- What the examination of an ending found, and how words with this ending may go on to texts that
could have changed its course. -/
structure Finding where
  holds : Bool
  openings : List Reading

def conclude (b : Bool) : Finding := ⟨b, []⟩

/-- Whether the word has this shape. -/
def ask (shape : Shape) (t : Reading) (next : Bool → Finding) : Finding :=
  let found := next (verdict (shape.comparisonsFor t) t)
  ⟨found.holds, openings t (shape.comparisonsFor t) ++ found.openings⟩

/-- What the rules make of the word, and by which edit. -/
def step (rules : List Rule) (t : Reading) (next : Edit → Reading → Finding) : Finding :=
  let found := lookup t (entriesFor rules t)
  withReading (found.1.apply t) fun r =>
    ⟨found.1.drop.ble t.length && (next found.1 r).holds, found.2 ++ (next found.1 r).openings⟩

/-- The finding settles `Q` for a word that is `rest` before the ending. -/
def Finding.Proves (x : Finding) (rest : Reading) (Q : Prop) : Prop :=
  Avoids x.openings rest → x.holds = true → Q

section Word

variable {w : List Char} {t rest : Reading} (ht : t ++ rest = wordReading w) {Q : Prop}

theorem conclude_proves {b : Bool} (h : b = true → Q) : (conclude b).Proves rest Q :=
  fun _ hb => h hb

include ht

theorem ask_proves {shape : Shape} {next : Bool → Finding}
    (hnext : (next (shape.matches w)).Proves rest Q) : (ask shape t next).Proves rest Q := by
  intro havoids hholds
  obtain ⟨hshape, hrest⟩ := avoids_append_iff.mp havoids
  have hverdict : verdict (shape.comparisonsFor t) t = shape.matches w := by
    rw [shape.matches_eq_verdict, ← ht, ← shape.verdict_comparisonsFor, verdict_append hshape]
  rw [hverdict] at hrest
  exact hnext hrest (by simpa only [ask, hverdict] using hholds)

theorem step_proves {rules : List Rule} (hrules : Regular rules) (hw : w.map lowerAscii = w)
    {next : Edit → Reading → Finding}
    (hnext : ∀ u, u ++ rest = wordReading (inflectSegment rules w) →
      (next (firstRule rules w).edit u).Proves rest Q) : (step rules t next).Proves rest Q := by
  intro havoids hholds
  simp only [step, withReading_eq, Bool.and_eq_true, avoids_append_iff] at havoids hholds
  have hedit : (lookup t (entriesFor rules t)).1 = (firstRule rules w).edit := by
    rw [← lookup_eq havoids.1, chosen_entriesFor, ht, editOf_wordReading]
  rw [hedit] at havoids hholds
  refine hnext _ ?_ havoids.2 hholds.2
  rw [wordReading_inflectSegment hrules hw, ← ht, Edit.apply, Edit.apply,
    List.drop_append_of_le_length (Nat.le_of_ble_eq_true hholds.1), List.append_assoc]

end Word

/-! ## All endings -/

/-- The texts without those that go on from another one. -/
def minimal : List Reading → List Reading
  | [] => []
  | o :: os =>
    let kept := minimal os
    bif kept.any (·.isPrefixOf o) then kept else o :: kept.filter (!o.isPrefixOf ·)

theorem exists_prefix_mem_minimal {os : List Reading} {o : Reading} (ho : o ∈ os) :
    ∃ m ∈ minimal os, m <+: o := by
  induction os with
  | nil => cases ho
  | cons a os ih =>
    rw [minimal]
    cases hany : (minimal os).any (·.isPrefixOf a) with
    | true =>
      obtain rfl | ho := List.mem_cons.mp ho
      · simpa using hany
      · exact ih ho
    | false =>
      obtain rfl | ho := List.mem_cons.mp ho
      · exact ⟨o, List.mem_cons_self, List.prefix_rfl⟩
      · obtain ⟨m, hm, hmo⟩ := ih ho
        -- `m` may have gone in favour of `a`
        by_cases ham : a <+: m
        · exact ⟨a, List.mem_cons_self, ham.trans hmo⟩
        · have hkept : (!a.isPrefixOf m) = true := by
            rwa [Bool.not_eq_true', Bool.eq_false_iff, ne_eq, List.isPrefixOf_iff_prefix]
          exact ⟨m, List.mem_cons_of_mem _ (List.mem_filter.mpr ⟨hm, hkept⟩), hmo⟩

/-- Examines `t` and, for each opening, the endings that go on with it. -/
def explore (exam : Reading → Finding) : Nat → Reading → Bool
  | 0, _ => false
  | fuel + 1, t =>
    (exam t).holds && withReadings (exam t).openings fun os =>
      (minimal os).all fun o => withReading (t ++ o) (explore exam fuel)

theorem explore_sound {exam : Reading → Finding} {Q : Reading → Prop}
    (hexam : ∀ t rest, (exam t).Proves rest (Q (t ++ rest))) {fuel : Nat} {t : Reading}
    (h : explore exam fuel t = true) (rest : Reading) : Q (t ++ rest) := by
  induction fuel generalizing t rest with
  | zero => cases h
  | succ fuel ih =>
    simp only [explore, withReadings_eq, withReading_eq, Bool.and_eq_true, List.all_eq_true] at h
    by_cases havoids : Avoids (minimal (exam t).openings) rest
    · refine hexam t rest (fun o ho hprefix => ?_) h.1
      obtain ⟨m, hm, hmo⟩ := exists_prefix_mem_minimal ho
      exact havoids m hm (hmo.trans hprefix)
    · simp only [Avoids, not_forall, not_not] at havoids
      obtain ⟨o, ho, rest, rfl⟩ := havoids
      rw [← List.append_assoc]
      exact ih (h.2 o ho) rest

theorem forall_words_of_explore {exam : Reading → Finding} {Q : List Char → Prop}
    (hexam : ∀ {w t rest}, w.map lowerAscii = w → t ++ rest = wordReading w →
      (exam t).Proves rest (Q w)) {fuel : Nat} (h : explore exam fuel [] = true) {w : List Char}
    (hw : w.map lowerAscii = w) : Q w :=
  explore_sound (Q := fun r => ∀ w, w.map lowerAscii = w → r = wordReading w → Q w)
    (fun _ _ havoids hholds _ hw ht => hexam hw ht havoids hholds) h (wordReading w) w hw rfl

end RecordSearch.Inflection
