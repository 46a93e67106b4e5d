import RecordSearch.Json.Printer
import RecordSearch.Proofs.Json.Numbers

/-!
The tokens of a printed value. Each part of the text gives its own tokens, whatever stands behind it
(`tokens?_pretty`), as long as that does not go on with a number or a word (`Stops`).
-/

namespace RecordSearch.Json

open RecordSearch.Text

/-! ## Strings -/

theorem hexNumber?_of_lt {n : Nat} (h : n < 0x20) :
    hexNumber? ['0', '0', hexDigit (n / 16), hexDigit (n % 16)] = some n := by
  have hall : ∀ m < 0x20,
      hexNumber? ['0', '0', hexDigit (m / 16), hexDigit (m % 16)] = some m := by decide +kernel
  exact hall n h

theorem unitOfCode_toNat {c : Char} (h : c.toNat < 0x20) : unitOfCode c.toNat = .char c := by
  rw [unitOfCode, if_neg (by omega), if_neg (by omega), Char.ofNat_toNat]

/-- What stands for a character is read as the character. -/
theorem stringUnits?_escaped (c : Char) (cs : List Char) :
    stringUnits? (escaped c ++ cs) =
      (stringUnits? cs).map fun (us, rest) => (.char c :: us, rest) := by
  have hsimple : ∀ d, simpleEscape? d = some c → d ≠ 'u' →
      stringUnits? ('\\' :: d :: cs) =
        (stringUnits? cs).map fun (us, rest) => (.char c :: us, rest) := by
    intro d hd hne
    cases hcs : stringUnits? cs <;> simp [stringUnits?, hd, hne, hcs]
  unfold escaped
  split
  · exact hsimple '"' rfl (by decide)
  · exact hsimple '\\' rfl (by decide)
  · exact hsimple 'b' rfl (by decide)
  · exact hsimple 'f' rfl (by decide)
  · exact hsimple 'n' rfl (by decide)
  · exact hsimple 'r' rfl (by decide)
  · exact hsimple 't' rfl (by decide)
  · rename_i hquote hback _ _ _ _ _
    split
    · rename_i hcontrol
      have hhex := hexNumber?_of_lt hcontrol
      cases hcs : stringUnits? cs <;>
        simp [stringUnits?, hhex, unitOfCode_toNat hcontrol, hcs]
    · rename_i hcontrol
      have hplain : (decide (c = '\\') || decide (c.toNat < 0x20)) = false := by
        simpa [hcontrol] using hback
      rw [List.singleton_append, stringUnits?, hplain, if_neg Bool.false_ne_true]
      · exact hquote
      · exact fun _ _ _ _ _ h _ => hback h
      · exact fun _ _ h _ => hback h

theorem stringUnits?_flatMap_escaped (cs rest : List Char) :
    stringUnits? (cs.flatMap escaped ++ '"' :: rest) = some (cs.map .char, rest) := by
  induction cs with
  | nil => rfl
  | cons c cs ih =>
    rw [List.flatMap_cons, List.append_assoc, stringUnits?_escaped, ih]
    rfl

theorem joinUnits?_map_char (cs : List Char) : joinUnits? (cs.map .char) = some cs := by
  induction cs with
  | nil => rfl
  | cons c cs ih => simp [joinUnits?, ih]

theorem readString?_escaped (s : String) (rest : List Char) :
    readString? (s.toList.flatMap escaped ++ '"' :: rest) = some (s, rest) := by
  simp [readString?, stringUnits?_flatMap_escaped, joinUnits?_map_char]

/-! ## One token after the other -/

theorem stringUnits?_length_le {cs rest : List Char} {us : List StringUnit}
    (h : stringUnits? cs = some (us, rest)) : rest.length ≤ cs.length := by
  fun_induction stringUnits? cs generalizing us rest with
  | case1 => cases h
  | case2 =>
    cases h
    exact Nat.le_succ _
  | case3 a b c d cs ih =>
    simp only [Option.bind_eq_bind, Option.bind_eq_some_iff, Option.some.injEq,
      Prod.mk.injEq] at h
    obtain ⟨_, -, ⟨us, rest'⟩, hunits, -, rfl⟩ := h
    have hle := ih hunits
    simp only [List.length_cons]
    omega
  | case4 c cs _ ih =>
    simp only [Option.bind_eq_bind, Option.bind_eq_some_iff, Option.some.injEq,
      Prod.mk.injEq] at h
    obtain ⟨_, -, ⟨us, rest'⟩, hunits, -, rfl⟩ := h
    have hle := ih hunits
    simp only [List.length_cons]
    omega
  | case5 => cases h
  | case6 c cs _ _ _ _ ih =>
    obtain ⟨⟨us, rest'⟩, hunits, heq⟩ := Option.map_eq_some_iff.mp h
    cases heq
    exact Nat.le_succ_of_le (ih hunits)

theorem readString?_length_le {cs rest : List Char} {s : String}
    (h : readString? cs = some (s, rest)) : rest.length ≤ cs.length := by
  unfold readString? at h
  simp only [Option.bind_eq_bind, Option.bind_eq_some_iff, Option.some.injEq, Prod.mk.injEq] at h
  obtain ⟨⟨us, rest'⟩, hunits, _, _, _, rfl⟩ := h
  exact stringUnits?_length_le hunits

/-- A token is a sign, a string, a number or a word. -/
theorem token?_cases {c : Char} {cs rest : List Char} {t : Token}
    (h : token? c cs = some (t, rest)) :
    (rest = cs ∧ ∀ v, t ≠ .scalar v) ∨
    (∃ s, t = .scalar (string s) ∧ readString? cs = some (s, rest)) ∨
    (∃ x chars, t = .scalar (number x) ∧ Number.read? chars = some x ∧
      rest = cs.dropWhile isNumberChar) ∨
    ((t = .scalar null ∨ ∃ b, t = .scalar (bool b)) ∧ rest = cs.dropWhile Char.isAlpha) := by
  unfold token? at h
  split at h
  case h_7 =>
    obtain ⟨⟨s, rest'⟩, hread, heq⟩ := Option.map_eq_some_iff.mp h
    cases heq
    exact .inr (.inl ⟨s, rfl, hread⟩)
  case h_8 =>
    split at h
    · obtain ⟨x, hread, heq⟩ := Option.map_eq_some_iff.mp h
      cases heq
      exact .inr (.inr (.inl ⟨x, _, rfl, hread, rfl⟩))
    · dsimp only at h
      refine .inr (.inr (.inr ?_))
      split at h
      · cases h
        exact ⟨.inl rfl, rfl⟩
      · split at h
        · cases h
          exact ⟨.inr ⟨true, rfl⟩, rfl⟩
        · split at h
          · cases h
            exact ⟨.inr ⟨false, rfl⟩, rfl⟩
          · cases h
  all_goals
    cases h
    exact .inl ⟨rfl, fun v hv => by cases hv⟩

theorem token?_length_le {c : Char} {cs rest : List Char} {t : Token}
    (h : token? c cs = some (t, rest)) : rest.length ≤ cs.length := by
  rcases token?_cases h with ⟨rfl, -⟩ | ⟨s, -, hread⟩ | ⟨_, _, -, -, rfl⟩ | ⟨-, rfl⟩
  · exact Nat.le_refl _
  · exact readString?_length_le hread
  · exact (List.dropWhile_suffix _).length_le
  · exact (List.dropWhile_suffix _).length_le

theorem tokensWithin?_congr {n m : Nat} {cs : List Char} (hn : cs.length ≤ n)
    (hm : cs.length ≤ m) : tokensWithin? n cs = tokensWithin? m cs := by
  induction n generalizing m cs with
  | zero =>
    obtain rfl : cs = [] := List.length_eq_zero_iff.mp (Nat.le_zero.mp hn)
    simp [tokensWithin?]
  | succ n ih =>
    cases cs with
    | nil => simp [tokensWithin?]
    | cons c cs =>
      rw [List.length_cons] at hn hm
      obtain ⟨k, rfl⟩ : ∃ k, m = k + 1 := ⟨m - 1, by omega⟩
      rw [tokensWithin?, tokensWithin?]
      split
      · exact ih (by omega) (by omega)
      · cases htoken : token? c cs with
        | none => rfl
        | some p =>
          obtain ⟨t, rest⟩ := p
          have hle := token?_length_le htoken
          have hrest : tokensWithin? n rest = tokensWithin? k rest := ih (by omega) (by omega)
          simp [hrest]

theorem tokens?_space {c : Char} (h : isSpace c = true) (cs : List Char) :
    tokens? (c :: cs) = tokens? cs := by
  rw [tokens?, List.length_cons, tokensWithin?, if_pos h]
  rfl

theorem tokens?_cons {c : Char} {cs rest : List Char} {t : Token} {ts : List Token}
    (hspace : isSpace c = false) (ht : token? c cs = some (t, rest))
    (hts : tokens? rest = some ts) : tokens? (c :: cs) = some (t :: ts) := by
  have hrest : tokensWithin? cs.length rest = some ts :=
    (tokensWithin?_congr (token?_length_le ht) (Nat.le_refl _)).trans hts
  rw [tokens?, List.length_cons, tokensWithin?, hspace, if_neg Bool.false_ne_true, ht]
  simp [hrest]

/-! ## The tokens of a value -/

mutual

/-- The numbers in a value, in order. -/
def numbers : Json → List Number
  | .number x => [x]
  | .array xs => itemNumbers xs
  | .object es => entryNumbers es
  | _ => []

def itemNumbers : List Json → List Number
  | [] => []
  | x :: xs => numbers x ++ itemNumbers xs

def entryNumbers : List (String × Json) → List Number
  | [] => []
  | (_, v) :: es => numbers v ++ entryNumbers es

end

mutual

/-- The tokens that a value is written with. -/
def tokens : Json → List Token
  | .array [] => [.openArray, .closeArray]
  | .array (x :: xs) => .openArray :: tokens x ++ itemTokens xs ++ [.closeArray]
  | .object [] => [.openObject, .closeObject]
  | .object ((k, v) :: es) =>
    .openObject :: .scalar (string k) :: .colon :: tokens v ++ entryTokens es ++ [.closeObject]
  | v => [.scalar v]

def itemTokens : List Json → List Token
  | [] => []
  | x :: xs => .comma :: tokens x ++ itemTokens xs

def entryTokens : List (String × Json) → List Token
  | [] => []
  | (k, v) :: es => .comma :: .scalar (string k) :: .colon :: tokens v ++ entryTokens es

end

/-! ## Lexing what was written -/

/-- A number or a word is not continued. -/
def Stops (cs : List Char) : Prop := ∀ c ∈ cs.head?, isNumberChar c = false ∧ c.isAlpha = false

theorem Stops.cons {c : Char} (h : isNumberChar c = false ∧ c.isAlpha = false) (cs : List Char) :
    Stops (c :: cs) := by
  rintro _ ⟨⟩
  exact h

theorem takeWhile_dropWhile_append {p : Char → Bool} {cs rest : List Char}
    (hrest : ∀ c ∈ rest.head?, p c = false) (hcs : ∀ c ∈ cs, p c = true) :
    (cs ++ rest).takeWhile p = cs ∧ (cs ++ rest).dropWhile p = rest := by
  have hstop : rest.takeWhile p = [] ∧ rest.dropWhile p = rest := by
    cases rest with
    | nil => exact ⟨rfl, rfl⟩
    | cons c rest =>
      have hc : p c = false := hrest c rfl
      simp [hc]
  rw [List.takeWhile_append_of_pos hcs, List.dropWhile_append_of_pos hcs, hstop.1, hstop.2,
    List.append_nil]
  exact ⟨rfl, rfl⟩

section

variable {rest : List Char} {ts : List Token} (h : tokens? rest = some ts)

theorem stops_newline (depth : Nat) (rest : List Char) :
    Stops ((newline depth).toList ++ rest) := by
  rw [newline, String.toList_append, List.append_assoc]
  exact .cons (by decide) _

include h

theorem tokens?_newline (depth : Nat) : tokens? ((newline depth).toList ++ rest) = some ts := by
  have hblanks : ∀ n, tokens? (List.replicate n ' ' ++ rest) = some ts := by
    intro n
    induction n with
    | zero => exact h
    | succ n ih => exact (tokens?_space rfl _).trans ih
  have htext : (newline depth).toList ++ rest =
      '\n' :: (List.replicate (2 * depth) ' ' ++ rest) := by
    simp [newline]
  rw [htext]
  exact (tokens?_space rfl _).trans (hblanks _)

theorem tokens?_stringText (s : String) :
    tokens? ((stringText s).toList ++ rest) = some (.scalar (string s) :: ts) := by
  have htext : (stringText s).toList ++ rest =
      '"' :: (s.toList.flatMap escaped ++ '"' :: rest) := by
    simp [stringText]
  have htoken : token? '"' (s.toList.flatMap escaped ++ '"' :: rest) =
      some (.scalar (string s), rest) := by
    rw [token?, readString?_escaped]
    rfl
  rw [htext]
  exact tokens?_cons rfl htoken h

theorem tokens?_sign {c : Char} {t : Token}
    (hsign : (c, t) ∈ [('[', Token.openArray), (']', .closeArray), ('\x7b', .openObject),
      ('\x7d', .closeObject), (':', .colon), (',', .comma)]) :
    tokens? (c :: rest) = some (t :: ts) := by
  simp only [List.mem_cons, Prod.mk.injEq, List.not_mem_nil, or_false] at hsign
  rcases hsign with ⟨rfl, rfl⟩ | ⟨rfl, rfl⟩ | ⟨rfl, rfl⟩ | ⟨rfl, rfl⟩ | ⟨rfl, rfl⟩ | ⟨rfl, rfl⟩
  all_goals exact tokens?_cons rfl rfl h

omit h in
theorem token?_of_number_start {c : Char} (hc : c = '-' ∨ c.isDigit = true) (cs : List Char) :
    token? c cs = (Number.read? (c :: cs.takeWhile isNumberChar)).map fun x =>
      (.scalar (number x), cs.dropWhile isNumberChar) := by
  unfold token?
  split
  case h_8 =>
    have hchar : (isNumberChar c && c ≠ 'e' && c ≠ 'E') = true := by
      rcases hc with rfl | hdigit
      · decide
      · have he : c ≠ 'e' ∧ c ≠ 'E' := by
          constructor <;> (rintro rfl; cases hdigit)
        simp [Number.isNumberChar_of_isDigit hdigit, he]
    rw [if_pos hchar]
  all_goals exact absurd hc (by decide)

theorem tokens?_word {c : Char} {cs : List Char} {v : Json} (hrest : Stops rest)
    (hword : (c, cs, v) ∈ [('n', ['u', 'l', 'l'], null), ('t', ['r', 'u', 'e'], bool true),
      ('f', ['a', 'l', 's', 'e'], bool false)]) :
    tokens? (c :: (cs ++ rest)) = some (.scalar v :: ts) := by
  have halpha : ∀ d ∈ rest.head?, d.isAlpha = false := fun d hd => (hrest d hd).2
  have htoken : ∀ after, after.takeWhile Char.isAlpha = cs →
      token? c after = some (.scalar v, after.dropWhile Char.isAlpha) := by
    intro after hafter
    simp only [List.mem_cons, Prod.mk.injEq, List.not_mem_nil, or_false] at hword
    rcases hword with ⟨rfl, rfl, rfl⟩ | ⟨rfl, rfl, rfl⟩ | ⟨rfl, rfl, rfl⟩
    all_goals simp [token?, isNumberChar, hafter]
  have hcs : isSpace c = false ∧ ∀ d ∈ cs, d.isAlpha = true := by
    simp only [List.mem_cons, Prod.mk.injEq, List.not_mem_nil, or_false] at hword
    rcases hword with ⟨rfl, rfl, -⟩ | ⟨rfl, rfl, -⟩ | ⟨rfl, rfl, -⟩
    all_goals simp [isSpace]
  obtain ⟨htake, hdrop⟩ := takeWhile_dropWhile_append halpha hcs.2
  have hfirst := htoken (cs ++ rest) htake
  rw [hdrop] at hfirst
  exact tokens?_cons hcs.1 hfirst h

theorem tokens?_number {x : Number} (hx : x.ReadsBack) (hrest : Stops rest) :
    tokens? (x.text.toList ++ rest) = some (.scalar (number x) :: ts) := by
  obtain ⟨c, cs, htext, hc, hcs⟩ := x.exists_cons_text
  obtain ⟨htake, hdrop⟩ := takeWhile_dropWhile_append (fun c hc => (hrest c hc).1) hcs
  have hread : Number.read? (c :: cs) = some x := htext ▸ hx
  have htoken : token? c (cs ++ rest) = some (.scalar (number x), rest) := by
    rw [token?_of_number_start hc, htake, hdrop, hread]
    rfl
  have hspace : isSpace c = false := by
    rcases hc with rfl | hdigit
    · decide
    · rw [Bool.eq_false_iff]
      intro hspace
      simp only [isSpace, Bool.or_eq_true, decide_eq_true_eq] at hspace
      rcases hspace with ((rfl | rfl) | rfl) | rfl <;> cases hdigit
  rw [htext]
  exact tokens?_cons hspace htoken h

end

theorem stops_prettyItems (depth : Nat) (xs : List Json) {rest : List Char} (hrest : Stops rest) :
    Stops ((prettyItems depth xs).toList ++ rest) := by
  cases xs with
  | nil => simpa [prettyItems] using hrest
  | cons x xs =>
    simp only [prettyItems, String.toList_append, List.append_assoc]
    exact .cons (by decide) _

theorem stops_prettyEntries (depth : Nat) (es : List (String × Json)) {rest : List Char}
    (hrest : Stops rest) : Stops ((prettyEntries depth es).toList ++ rest) := by
  cases es with
  | nil => simpa [prettyEntries] using hrest
  | cons e es =>
    simp only [prettyEntries, String.toList_append, List.append_assoc]
    exact .cons (by decide) _

/-- An entry is read up to the colon and the space after it. -/
theorem tokens?_key {rest : List Char} {ts : List Token} (h : tokens? rest = some ts) (k : String) :
    tokens? ((stringText k).toList ++ (':' :: ' ' :: rest)) =
      some (.scalar (string k) :: .colon :: ts) :=
  tokens?_stringText (tokens?_sign ((tokens?_space rfl _).trans h) (by simp)) k

mutual

/-- A printed value gives its tokens, and leaves the rest. -/
theorem tokens?_pretty (depth : Nat) (v : Json) (hv : ∀ x ∈ v.numbers, x.ReadsBack)
    {rest : List Char} {ts : List Token} (hrest : Stops rest) (h : tokens? rest = some ts) :
    tokens? ((pretty depth v).toList ++ rest) = some (v.tokens ++ ts) := by
  match v, hv with
  | null, _ =>
    have hword := @tokens?_word _ _ h 'n' ['u', 'l', 'l'] null hrest (by simp)
    simpa [pretty, tokens] using hword
  | bool true, _ =>
    have hword := @tokens?_word _ _ h 't' ['r', 'u', 'e'] (bool true) hrest (by simp)
    simpa [pretty, tokens] using hword
  | bool false, _ =>
    have hword := @tokens?_word _ _ h 'f' ['a', 'l', 's', 'e'] (bool false) hrest (by simp)
    simpa [pretty, tokens] using hword
  | number x, hv => exact tokens?_number h (hv x (List.mem_singleton_self x)) hrest
  | string s, _ => exact tokens?_stringText h s
  | array [], _ =>
    have hclose : tokens? (']' :: rest) = some (.closeArray :: ts) := tokens?_sign h (by simp)
    have hopen : tokens? ('[' :: _) = some (.openArray :: _) := tokens?_sign hclose (by simp)
    simpa [pretty, tokens] using hopen
  | array (x :: xs), hv =>
    simp only [numbers, itemNumbers, List.forall_mem_append] at hv
    have hclose : tokens? ((newline depth).toList ++ ']' :: rest) = some (.closeArray :: ts) :=
      tokens?_newline (tokens?_sign h (by simp)) depth
    have hstops := stops_newline depth (']' :: rest)
    have hitems := tokens?_prettyItems (depth + 1) xs hv.2 hstops hclose
    have hfirst := tokens?_pretty (depth + 1) x hv.1
      (stops_prettyItems (depth + 1) xs hstops) hitems
    have hopen : tokens? ('[' :: _) = some (.openArray :: _) :=
      tokens?_sign (tokens?_newline hfirst (depth + 1)) (by simp)
    simpa [pretty, tokens] using hopen
  | object [], _ =>
    have hclose : tokens? ('\x7d' :: rest) = some (.closeObject :: ts) := tokens?_sign h (by simp)
    have hopen : tokens? ('\x7b' :: _) = some (.openObject :: _) := tokens?_sign hclose (by simp)
    simpa [pretty, tokens] using hopen
  | object ((k, v) :: es), hv =>
    simp only [numbers, entryNumbers, List.forall_mem_append] at hv
    have hclose : tokens? ((newline depth).toList ++ '\x7d' :: rest) = some (.closeObject :: ts) :=
      tokens?_newline (tokens?_sign h (by simp)) depth
    have hstops := stops_newline depth ('\x7d' :: rest)
    have hentries := tokens?_prettyEntries (depth + 1) es hv.2 hstops hclose
    have hfirst := tokens?_pretty (depth + 1) v hv.1
      (stops_prettyEntries (depth + 1) es hstops) hentries
    have hopen : tokens? ('\x7b' :: _) = some (.openObject :: _) :=
      tokens?_sign (tokens?_newline (tokens?_key hfirst k) (depth + 1)) (by simp)
    simpa [pretty, tokens] using hopen

theorem tokens?_prettyItems (depth : Nat) (xs : List Json)
    (hxs : ∀ x ∈ itemNumbers xs, x.ReadsBack) {rest : List Char} {ts : List Token}
    (hrest : Stops rest) (h : tokens? rest = some ts) :
    tokens? ((prettyItems depth xs).toList ++ rest) = some (itemTokens xs ++ ts) := by
  match xs, hxs with
  | [], _ => simpa [prettyItems, itemTokens] using h
  | x :: xs, hxs =>
    simp only [itemNumbers, List.forall_mem_append] at hxs
    have hitems := tokens?_prettyItems depth xs hxs.2 hrest h
    have hfirst := tokens?_pretty depth x hxs.1 (stops_prettyItems depth xs hrest) hitems
    have hcomma : tokens? (',' :: _) = some (.comma :: _) :=
      tokens?_sign (tokens?_newline hfirst depth) (by simp)
    simpa [prettyItems, itemTokens] using hcomma

theorem tokens?_prettyEntries (depth : Nat) (es : List (String × Json))
    (hes : ∀ x ∈ entryNumbers es, x.ReadsBack) {rest : List Char} {ts : List Token}
    (hrest : Stops rest) (h : tokens? rest = some ts) :
    tokens? ((prettyEntries depth es).toList ++ rest) = some (entryTokens es ++ ts) := by
  match es, hes with
  | [], _ => simpa [prettyEntries, entryTokens] using h
  | (k, v) :: es, hes =>
    simp only [entryNumbers, List.forall_mem_append] at hes
    have hentries := tokens?_prettyEntries depth es hes.2 hrest h
    have hfirst := tokens?_pretty depth v hes.1 (stops_prettyEntries depth es hrest) hentries
    have hcomma : tokens? (',' :: _) = some (.comma :: _) :=
      tokens?_sign (tokens?_newline (tokens?_key hfirst k) depth) (by simp)
    simpa [prettyEntries, entryTokens] using hcomma

end

end RecordSearch.Json
