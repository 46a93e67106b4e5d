import RecordSearch.Proofs.Json.Lexing

/-!
What reading gives: values whose containers are not nested too deep, whose objects have each key
once, and whose integers have 64 bits (`fits_of_read?`). Each token that the reader takes keeps this
true of what it has read so far (`Machine.Sound.step?`).
-/

namespace RecordSearch.Json

/-! ## Values -/

/-- Containers are nested at most `n` deep, no object has a key twice, and every number satisfies
`P`. -/
inductive Fits (P : Number → Prop) : Nat → Json → Prop
  | null {n : Nat} : Fits P n null
  | bool {n : Nat} (b : Bool) : Fits P n (bool b)
  | number {n : Nat} {x : Number} (hx : P x) : Fits P n (number x)
  | string {n : Nat} (s : String) : Fits P n (string s)
  | array {n : Nat} {xs : List Json} (hxs : ∀ x ∈ xs, Fits P n x) : Fits P (n + 1) (array xs)
  | object {n : Nat} {es : List (String × Json)} (hes : ∀ e ∈ es, Fits P n e.2)
      (hkeys : (es.map Prod.fst).Nodup) : Fits P (n + 1) (object es)

variable {P : Number → Prop}

theorem itemNumbers_eq (xs : List Json) : itemNumbers xs = xs.flatMap numbers := by
  induction xs with
  | nil => rfl
  | cons x xs ih => rw [itemNumbers, ih, List.flatMap_cons]

theorem entryNumbers_eq (es : List (String × Json)) :
    entryNumbers es = es.flatMap fun e => e.2.numbers := by
  induction es with
  | nil => rfl
  | cons e es ih => rw [entryNumbers, ih, List.flatMap_cons]

theorem Fits.numbers {n : Nat} {v : Json} (h : Fits P n v) : ∀ x ∈ v.numbers, P x := by
  induction h with
  | number hx =>
    rw [Json.numbers, List.forall_mem_singleton]
    exact hx
  | array hxs ih =>
    rw [Json.numbers, itemNumbers_eq]
    intro x hx
    obtain ⟨item, hitem, hx⟩ := List.mem_flatMap.mp hx
    exact ih item hitem x hx
  | object hes hkeys ih =>
    rw [Json.numbers, entryNumbers_eq]
    intro x hx
    obtain ⟨e, he, hx⟩ := List.mem_flatMap.mp hx
    exact ih e he x hx
  | _ => exact List.forall_mem_nil _

/-- The numbers may be known to satisfy `P` at one depth, and the value to fit another. -/
theorem Fits.of_fits {Q : Number → Prop} {n m : Nat} {v : Json} (hn : Fits P n v)
    (hm : Fits Q m v) : Fits P m v := by
  induction hm generalizing n with
  | null => exact .null
  | bool b => exact .bool b
  | number _ =>
    cases hn with
    | number hx => exact .number hx
  | string s => exact .string s
  | array _ ih =>
    cases hn with
    | array hxs => exact .array fun x hx => ih x hx (hxs x hx)
  | object _ hkeys ih =>
    cases hn with
    | object hes => exact .object (fun e he => ih e he (hes e he)) hkeys

/-! ## Entries -/

theorem put_of_not_mem {key : String} {entries : List (String × Json)}
    (h : key ∉ entries.map Prod.fst) (value : Json) :
    put key value entries = entries ++ [(key, value)] := by
  induction entries with
  | nil => rfl
  | cons e rest ih =>
    rw [List.map_cons, List.mem_cons, not_or] at h
    rw [put, if_neg (Ne.symm h.1), ih h.2, List.cons_append]

theorem map_fst_put_of_mem {key : String} {entries : List (String × Json)}
    (h : key ∈ entries.map Prod.fst) (value : Json) :
    (put key value entries).map Prod.fst = entries.map Prod.fst := by
  induction entries with
  | nil => cases h
  | cons e rest ih =>
    by_cases he : e.1 = key
    · rw [put, if_pos he]
      rfl
    · rw [List.map_cons, List.mem_cons] at h
      rw [put, if_neg he, List.map_cons, List.map_cons, ih (h.resolve_left (Ne.symm he))]

theorem nodup_put {entries : List (String × Json)} (h : (entries.map Prod.fst).Nodup)
    (key : String) (value : Json) : ((put key value entries).map Prod.fst).Nodup := by
  by_cases hmem : key ∈ entries.map Prod.fst
  · rw [map_fst_put_of_mem hmem]
    exact h
  · rw [put_of_not_mem hmem, List.map_append, List.map_singleton]
    refine List.nodup_append.mpr ⟨h, by simp, ?_⟩
    rintro a ha b hb rfl
    rw [List.mem_singleton.mp hb] at ha
    exact hmem ha

theorem eq_or_mem_of_mem_put {key : String} {value : Json} {entries : List (String × Json)}
    {e : String × Json} (h : e ∈ put key value entries) : e.2 = value ∨ e ∈ entries := by
  induction entries with
  | nil =>
    rw [put, List.mem_singleton] at h
    exact .inl (by rw [h])
  | cons first rest ih =>
    rw [put] at h
    split at h
    · rcases List.mem_cons.mp h with rfl | h
      · exact .inl rfl
      · exact .inr (List.mem_cons_of_mem _ h)
    · rcases List.mem_cons.mp h with rfl | h
      · exact .inr (List.mem_cons_self ..)
      · exact (ih h).imp_right (List.mem_cons_of_mem _)

/-- Entries that can be those of an object nested `n` deep. -/
structure EntriesFit (P : Number → Prop) (n : Nat) (entries : List (String × Json)) : Prop where
  fits : ∀ e ∈ entries, Fits P n e.2
  nodup : (entries.map Prod.fst).Nodup

theorem EntriesFit.nil {n : Nat} : EntriesFit P n [] := ⟨List.forall_mem_nil _, List.nodup_nil⟩

theorem EntriesFit.put {n : Nat} {entries : List (String × Json)} (h : EntriesFit P n entries)
    {value : Json} (hvalue : Fits P n value) (key : String) :
    EntriesFit P n (put key value entries) := by
  refine ⟨fun e he => ?_, nodup_put h.nodup key value⟩
  rcases eq_or_mem_of_mem_put he with heq | he
  · rw [heq]
    exact hvalue
  · exact h.fits e he

theorem EntriesFit.object {n : Nat} {entries : List (String × Json)} (h : EntriesFit P n entries) :
    Fits P (n + 1) (object entries) :=
  .object h.fits h.nodup

/-! ## Tokens -/

/-- A scalar among the tokens can stand anywhere. -/
def TokenFits (P : Number → Prop) (t : Token) : Prop := ∀ v, t = .scalar v → ∀ n, Fits P n v

theorem tokenFits_of_token? {c : Char} {cs rest : List Char} {t : Token}
    (h : token? c cs = some (t, rest)) : TokenFits Number.InRange t := by
  rintro v rfl n
  rcases token?_cases h with ⟨-, hsign⟩ | ⟨s, heq, -⟩ | ⟨x, _, heq, hread, -⟩ | ⟨heq, -⟩
  · exact absurd rfl (hsign v)
  · cases heq
    exact .string s
  · cases heq
    exact .number (Number.inRange_of_read? hread)
  · rcases heq with heq | ⟨b, heq⟩
    · cases heq
      exact .null
    · cases heq
      exact .bool b

theorem tokenFits_of_tokensWithin? {fuel : Nat} {cs : List Char} {ts : List Token}
    (h : tokensWithin? fuel cs = some ts) : ∀ t ∈ ts, TokenFits Number.InRange t := by
  induction fuel generalizing cs ts with
  | zero =>
    cases cs with
    | nil =>
      cases h
      exact List.forall_mem_nil _
    | cons c cs => cases h
  | succ fuel ih =>
    cases cs with
    | nil =>
      cases h
      exact List.forall_mem_nil _
    | cons c cs =>
      rw [tokensWithin?] at h
      split at h
      · exact ih h
      · simp only [Option.bind_eq_bind, Option.bind_eq_some_iff, Option.some.injEq] at h
        obtain ⟨⟨t, rest⟩, htoken, ts, hrest, rfl⟩ := h
        rw [List.forall_mem_cons]
        exact ⟨tokenFits_of_token? htoken, ih hrest⟩

/-! ## The machine -/

namespace Machine

/-- How deep a value may be nested that stands in the frames. -/
def room (frames : List Frame) : Nat := depthLimit - 1 - frames.length

theorem room_eq (f : Frame) {frames : List Frame} (h : frames.length + 1 < depthLimit) :
    room frames = room (f :: frames) + 1 := by
  simp only [room, List.length_cons]
  omega

def FrameFits (P : Number → Prop) (n : Nat) : Frame → Prop
  | .array items => ∀ x ∈ items, Fits P n x
  | .object entries _ => EntriesFit P n entries

def FramesFit (P : Number → Prop) : List Frame → Prop
  | [] => True
  | f :: frames => frames.length + 1 < depthLimit ∧ FrameFits P (room (f :: frames)) f ∧
      FramesFit P frames

def PhaseFits (P : Number → Prop) (n : Nat) : Phase → Prop
  | .ended v => Fits P n v
  | .key entries _ => EntriesFit P n entries
  | _ => True

/-- Nothing that has been read is too deep for where it stands. -/
structure Sound (P : Number → Prop) (m : Machine) : Prop where
  frames : FramesFit P m.frames
  phase : PhaseFits P (room m.frames) m.phase

theorem sound_start : Sound P start := ⟨trivial, trivial⟩

theorem sound_open? {frames : List Frame} (hframes : FramesFit P frames) {f : Frame}
    (hf : FrameFits P (room (f :: frames)) f) {phase : Phase}
    (hphase : PhaseFits P (room (f :: frames)) phase) {m : Machine}
    (h : open? frames f phase = some m) : Sound P m := by
  unfold open? at h
  split at h
  · cases h
    exact ⟨⟨by assumption, hf, hframes⟩, hphase⟩
  · cases h

theorem sound_begin? {frames : List Frame} (hframes : FramesFit P frames) {t : Token}
    (ht : TokenFits P t) {m : Machine} (h : begin? frames t = some m) : Sound P m := by
  unfold begin? at h
  split at h
  · cases h
    exact ⟨hframes, ht _ rfl _⟩
  · have hitems : FrameFits P (room (.array [] :: frames)) (.array []) := List.forall_mem_nil _
    have hphase : PhaseFits P (room (.array [] :: frames)) .firstItem := trivial
    exact sound_open? hframes hitems hphase h
  · have hentries : FrameFits P (room (.object [] "" :: frames)) (.object [] "") := EntriesFit.nil
    have hphase : PhaseFits P (room (.object [] "" :: frames)) (.key [] true) := EntriesFit.nil
    exact sound_open? hframes hentries hphase h
  · cases h

theorem Sound.step? {m m' : Machine} (hm : Sound P m) {t : Token} (ht : TokenFits P t)
    (h : m.step? t = some m') : Sound P m' := by
  obtain ⟨frames, phase⟩ := m
  obtain ⟨hframes, hphase⟩ := hm
  dsimp only at hframes hphase
  unfold Machine.step? at h
  dsimp only at h
  split at h
  case h_1 items frames =>
    cases h
    refine ⟨hframes.2.2, ?_⟩
    rw [PhaseFits, room_eq (.array items) hframes.1]
    exact .array (List.forall_mem_nil _)
  case h_2 => exact sound_begin? hframes ht h
  case h_3 => exact sound_begin? hframes ht h
  case h_4 found entries key frames =>
    cases h
    refine ⟨hframes.2.2, ?_⟩
    rw [PhaseFits, room_eq (.object entries key) hframes.1]
    exact EntriesFit.nil.object
  case h_5 entries empty k old key frames =>
    cases h
    exact ⟨⟨hframes.1, hphase, hframes.2.2⟩, trivial⟩
  case h_6 =>
    cases h
    exact ⟨hframes, trivial⟩
  case h_7 v items frames =>
    cases h
    refine ⟨⟨hframes.1, ?_, hframes.2.2⟩, trivial⟩
    exact List.forall_mem_cons.mpr ⟨hphase, hframes.2.1⟩
  case h_8 v items frames =>
    cases h
    refine ⟨hframes.2.2, ?_⟩
    have hall : ∀ x ∈ v :: items, Fits P (room (.array items :: frames)) x :=
      List.forall_mem_cons.mpr ⟨hphase, hframes.2.1⟩
    rw [PhaseFits, room_eq (.array items) hframes.1]
    exact .array fun x hx => hall x (List.mem_reverse.mp hx)
  case h_9 v entries key frames =>
    cases h
    exact ⟨hframes, hframes.2.1.put hphase key⟩
  case h_10 v entries key frames =>
    cases h
    refine ⟨hframes.2.2, ?_⟩
    rw [PhaseFits, room_eq (.object entries key) hframes.1]
    exact (hframes.2.1.put hphase key).object
  case h_11 => cases h

theorem Sound.foldlM {m m' : Machine} (hm : Sound P m) {ts : List Token}
    (hts : ∀ t ∈ ts, TokenFits P t) (h : ts.foldlM Machine.step? m = some m') : Sound P m' := by
  induction ts generalizing m with
  | nil =>
    cases h
    exact hm
  | cons t ts ih =>
    rw [List.forall_mem_cons] at hts
    obtain ⟨next, hstep, hrest⟩ := Option.bind_eq_some_iff.mp h
    exact ih (hm.step? hts.1 hstep) hts.2 hrest

end Machine

/-- Whatever is read could be opened container by container within the limit. -/
theorem fits_of_read? {text : String} {v : Json} (h : read? text = some v) :
    Fits Number.InRange (depthLimit - 1) v := by
  unfold read? readChars? at h
  simp only [Option.bind_eq_bind, Option.bind_eq_some_iff] at h
  obtain ⟨ts, htokens, m, hrun, hresult⟩ := h
  have hsound := Machine.sound_start.foldlM (tokenFits_of_tokensWithin? htokens) hrun
  unfold Machine.result? at hresult
  split at hresult
  · cases hresult
    exact hsound.phase
  · cases hresult

end RecordSearch.Json
