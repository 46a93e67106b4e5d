import RecordSearch.Proofs.Json.Shape

/-!
Reading what was printed. The tokens of a value take the machine from where a value has to follow to
where it has ended (`Machine.foldlM_tokens`), so a text gives back the value it was printed from
(`read?_text`), if the value is one that can be read and its numbers come back from their text.
-/

namespace RecordSearch.Json

namespace Machine

/-- The tokens of the value are taken for the value, with these containers open. -/
def Takes (frames : List Frame) (v : Json) : Prop :=
  v.tokens.foldlM step? ⟨frames, .value⟩ = some ⟨frames, .ended v⟩

theorem foldlM_append_of_eq {ts us : List Token} {m m' : Machine}
    (h : ts.foldlM step? m = some m') : (ts ++ us).foldlM step? m = us.foldlM step? m' := by
  rw [List.foldlM_append, h]
  rfl

/-- A first item is read like any other. -/
theorem foldlM_firstItem (frames : List Frame) (v : Json) :
    v.tokens.foldlM step? ⟨frames, .firstItem⟩ = v.tokens.foldlM step? ⟨frames, .value⟩ := by
  have hstep : ∀ t, t ≠ .closeArray →
      step? ⟨frames, .firstItem⟩ t = step? ⟨frames, .value⟩ t := by
    intro t ht
    cases t with
    | closeArray => exact absurd rfl ht
    | _ => rfl
  have hhead : ∃ t ts, v.tokens = t :: ts ∧ t ≠ .closeArray := by
    unfold tokens
    split
    all_goals exact ⟨_, _, rfl, by simp⟩
  obtain ⟨t, ts, hts, ht⟩ := hhead
  rw [hts, List.foldlM_cons, List.foldlM_cons, hstep t ht]

theorem foldlM_itemTokens {frames : List Frame} {xs : List Json}
    (hxs : ∀ x ∈ xs, ∀ items, Takes (.array items :: frames) x) (items : List Json) (v : Json) :
    (itemTokens xs ++ [Token.closeArray]).foldlM step? ⟨.array items :: frames, .ended v⟩ =
      some ⟨frames, .ended (.array ((v :: items).reverse ++ xs))⟩ := by
  induction xs generalizing items v with
  | nil => simp [itemTokens, step?]
  | cons x xs ih =>
    rw [List.forall_mem_cons] at hxs
    have hx : (x.tokens ++ (itemTokens xs ++ [Token.closeArray])).foldlM step?
        ⟨.array (v :: items) :: frames, .value⟩ =
          some ⟨frames, .ended (.array ((x :: v :: items).reverse ++ xs))⟩ :=
      (foldlM_append_of_eq (hxs.1 (v :: items))).trans (ih hxs.2 (v :: items) x)
    simpa [itemTokens, step?] using hx

theorem put_of_nodup {entries es : List (String × Json)} {k : String} {v : Json}
    (h : ((entries ++ (k, v) :: es).map Prod.fst).Nodup) :
    put k v entries = entries ++ [(k, v)] := by
  refine put_of_not_mem (fun hmem => ?_) v
  rw [List.map_append, List.map_cons, List.nodup_append] at h
  exact h.2.2 k hmem k (List.mem_cons_self ..) rfl

theorem foldlM_entryTokens {frames : List Frame} {es : List (String × Json)}
    (hes : ∀ e ∈ es, ∀ entries k, Takes (.object entries k :: frames) e.2)
    {entries : List (String × Json)} {k : String} {v : Json}
    (hkeys : ((entries ++ (k, v) :: es).map Prod.fst).Nodup) :
    (entryTokens es ++ [Token.closeObject]).foldlM step?
        ⟨.object entries k :: frames, .ended v⟩ =
      some ⟨frames, .ended (.object (entries ++ (k, v) :: es))⟩ := by
  induction es generalizing entries k v with
  | nil => simp [entryTokens, step?, put_of_nodup hkeys]
  | cons e es ih =>
    obtain ⟨k', v'⟩ := e
    rw [List.forall_mem_cons] at hes
    have hput := put_of_nodup hkeys
    rw [List.append_cons] at hkeys
    have hv : (v'.tokens ++ (entryTokens es ++ [Token.closeObject])).foldlM step?
        ⟨.object (put k v entries) k' :: frames, .value⟩ =
          some ⟨frames, .ended (.object (entries ++ [(k, v)] ++ (k', v') :: es))⟩ := by
      rw [hput]
      exact (foldlM_append_of_eq (hes.1 _ k')).trans (ih hes.2 hkeys)
    simpa [entryTokens, step?] using hv

variable {P : Number → Prop}

/-- Where there is room for a value, its tokens are taken for it. -/
theorem takes_of_fits {n : Nat} {v : Json} (h : Fits P n v) {frames : List Frame}
    (hroom : frames.length + n < depthLimit) : Takes frames v := by
  induction h generalizing frames with
  | @array n xs hxs ih =>
    have hopen : frames.length + 1 < depthLimit := by omega
    have hitems : ∀ x ∈ xs, ∀ items, Takes (.array items :: frames) x := by
      intro x hx items
      apply ih x hx
      rw [List.length_cons]
      omega
    unfold Takes
    cases xs with
    | nil => simp [tokens, step?, begin?, open?, hopen]
    | cons x xs =>
      rw [List.forall_mem_cons] at hitems
      have hfirst : (x.tokens ++ (itemTokens xs ++ [Token.closeArray])).foldlM step?
          ⟨.array [] :: frames, .firstItem⟩ = some ⟨frames, .ended (.array (x :: xs))⟩ := by
        have hx := hitems.1 []
        unfold Takes at hx
        rw [← foldlM_firstItem] at hx
        exact (foldlM_append_of_eq hx).trans (foldlM_itemTokens hitems.2 [] x)
      simpa [tokens, step?, begin?, open?, hopen] using hfirst
  | @object n es hes hkeys ih =>
    have hopen : frames.length + 1 < depthLimit := by omega
    have hentries : ∀ e ∈ es, ∀ entries k, Takes (.object entries k :: frames) e.2 := by
      intro e he entries k
      apply ih e he
      rw [List.length_cons]
      omega
    unfold Takes
    cases es with
    | nil => simp [tokens, step?, begin?, open?, hopen]
    | cons e es =>
      obtain ⟨k, v⟩ := e
      rw [List.forall_mem_cons] at hentries
      have hfirst : (v.tokens ++ (entryTokens es ++ [Token.closeObject])).foldlM step?
          ⟨.object [] k :: frames, .value⟩ = some ⟨frames, .ended (.object ((k, v) :: es))⟩ := by
        have hv := hentries.1 [] k
        exact (foldlM_append_of_eq hv).trans (foldlM_entryTokens hentries.2 hkeys)
      simpa [tokens, step?, begin?, open?, hopen] using hfirst
  | _ => rfl

end Machine

/-- A text gives back the value it was printed from, also with a line end behind it. -/
theorem read?_text {P : Number → Prop} {v : Json} (hv : Fits P (depthLimit - 1) v)
    (hnumbers : ∀ x ∈ v.numbers, x.ReadsBack) : read? (v.text ++ "\n") = some v := by
  have hend : tokens? ['\n'] = some [] := rfl
  have hstops : Stops ['\n'] := .cons (by decide) []
  have htokens := tokens?_pretty 0 v hnumbers hstops hend
  have htext : (v.text ++ "\n").toList = (pretty 0 v).toList ++ ['\n'] := by
    simp [text]
  have htakes : Machine.Takes [] v := Machine.takes_of_fits hv (by decide)
  unfold Machine.Takes at htakes
  rw [List.append_nil] at htokens
  rw [read?, readChars?, htext, htokens]
  simp [Machine.start, htakes, Machine.result?]

end RecordSearch.Json
