import RecordSearch.Registry.Resolution
import Mathlib.Data.List.Chain
import Mathlib.Logic.Relation

/-!
The graph of searched relations. An edge leads from one type to another if a search declaration of
the first names a relation of it to the second; relations that are not declared, and the filters of
a declaration, have no part in it.

* `Schema.Resolvable` says of a type that everything it reaches is in order;
* `SchemaError.Genuine` says of an error that what it reports is so, and then the type is not
  resolvable (`not_resolvable_of_genuine`);
* `Trail` says of the stack of `resolve` that it is a simple walk of the graph; where the walk comes
  back to itself, the reported path is a simple cycle (`Trail.genuine_cyclic`).
-/

open Relation

namespace RecordSearch

/-! ## Edges -/

namespace Schema

/-- A search declaration of `u` names a relation of `u` to `v`. -/
def Leads (s : Schema) (u v : String) : Prop :=
  ∃ t d relation, s.get? u = some t ∧ d ∈ t.declarations ∧
    t.relation? d.field = some relation ∧ relation.target = v

def Reaches (s : Schema) : String → String → Prop := ReflTransGen s.Leads

def OnCycle (s : Schema) (u : String) : Prop := TransGen s.Leads u u

structure Resolvable (s : Schema) (name : String) : Prop where
  defined : ∀ u, s.Reaches name u → ∃ t, s.get? u = some t
  declared : ∀ u t, s.Reaches name u → s.get? u = some t → ∀ d ∈ t.declarations,
    t.hasField d.field = true ∨ ∃ relation, t.relation? d.field = some relation
  acyclic : ∀ u, s.Reaches name u → ¬ s.OnCycle u

end Schema

theorem reflTransGen_of_mem_chain {α : Type} {R : α → α → Prop} {a : α} {l : List α}
    (h : (a :: l).IsChain R) : ∀ b ∈ a :: l, ReflTransGen R a b :=
  h.induction (ReflTransGen R a) _ (fun _ _ hxy hx => hx.tail hxy) (fun _ => .refl)

theorem transGen_of_chain {α : Type} {R : α → α → Prop} {a b : α} {l : List α}
    (h : (a :: l ++ [b]).IsChain R) : TransGen R a b := by
  cases l with
  | nil => exact .single ((List.isChain_cons_cons.mp h).1)
  | cons c l =>
    rw [List.cons_append, List.cons_append, List.isChain_cons_cons] at h
    exact .head' h.1 (reflTransGen_of_mem_chain h.2 b (by simp))

/-- What has finitely many steps ahead does not come back to itself. -/
theorem not_transGen_self_of_acc {α : Type} {R : α → α → Prop} {a : α}
    (h : Acc (fun y x => R x y) a) : ¬ TransGen R a a := by
  induction h with
  | intro a _ ih =>
    intro hcycle
    obtain ⟨b, hab, hba⟩ := TransGen.head'_iff.mp hcycle
    exact ih b hab (.tail' hba hab)

/-! ## Errors -/

namespace SchemaError

/-- What the error says of `name` and the types it reaches is so. A reported path is a closed walk
on which no type but the first occurs twice. -/
def Genuine (s : Schema) (name : String) : SchemaError → Prop
  | unknownType u => u = name ∧ s.get? u = none
  | unknownField u f => s.Reaches name u ∧ ∃ t, s.get? u = some t ∧
      (∃ d ∈ t.declarations, d.field = f) ∧ t.hasField f = false ∧ t.relation? f = none
  | unknownTarget u f v => s.Reaches name u ∧ ∃ t relation, s.get? u = some t ∧
      (∃ d ∈ t.declarations, d.field = f) ∧ t.relation? f = some relation ∧
      relation.target = v ∧ s.get? v = none
  | cyclic path => ∃ v walk, path = v :: walk ++ [v] ∧ (v :: walk).Nodup ∧
      path.IsChain s.Leads ∧ ∀ u ∈ path, s.Reaches name u

theorem Genuine.of_leads {s : Schema} {u v : String} {t : RecordType} {e : SchemaError}
    (huv : s.Leads u v) (hv : s.get? v = some t) (h : e.Genuine s v) : e.Genuine s u := by
  cases e with
  | unknownType w =>
    obtain ⟨rfl, hnone⟩ := h
    rw [hv] at hnone
    cases hnone
  | unknownField w f => exact ⟨.head huv h.1, h.2⟩
  | unknownTarget w f x => exact ⟨.head huv h.1, h.2⟩
  | cyclic path =>
    obtain ⟨w, walk, hpath, hnodup, hchain, hreach⟩ := h
    exact ⟨w, walk, hpath, hnodup, hchain, fun x hx => .head huv (hreach x hx)⟩

theorem not_resolvable_of_genuine {s : Schema} {name : String} {e : SchemaError}
    (h : e.Genuine s name) : ¬ s.Resolvable name := by
  intro hr
  cases e with
  | unknownType u =>
    obtain ⟨rfl, hnone⟩ := h
    obtain ⟨t, ht⟩ := hr.defined u .refl
    rw [ht] at hnone
    cases hnone
  | unknownField u f =>
    obtain ⟨hreach, t, ht, ⟨d, hd, rfl⟩, hfield, hrel⟩ := h
    rcases hr.declared u t hreach ht d hd with hf | ⟨relation, hsome⟩
    · rw [hf] at hfield
      cases hfield
    · rw [hsome] at hrel
      cases hrel
  | unknownTarget u f v =>
    obtain ⟨hreach, t, relation, ht, ⟨d, hd, rfl⟩, hrel, hv, hnone⟩ := h
    have huv : s.Leads u v := ⟨t, d, relation, ht, hd, hrel, hv⟩
    obtain ⟨t', ht'⟩ := hr.defined v (.tail hreach huv)
    rw [ht'] at hnone
    cases hnone
  | cyclic path =>
    obtain ⟨v, walk, rfl, -, hchain, hreach⟩ := h
    exact hr.acyclic v (hreach v (by simp)) (transGen_of_chain hchain)

end SchemaError

/-! ## Trails -/

/-- The types of the stack lead one to the next and the last of them to `name`, none of them
twice. -/
structure Trail (s : Schema) (stack : List String) (name : String) : Prop where
  nodup : stack.Nodup
  chain : (stack ++ [name]).IsChain s.Leads

namespace Trail

theorem nil (s : Schema) (name : String) : Trail s [] name := ⟨List.nodup_nil, .singleton name⟩

theorem push {s : Schema} {stack : List String} {owner v : String} (h : Trail s stack owner)
    (hnot : owner ∉ stack) (hlead : s.Leads owner v) : Trail s (stack ++ [owner]) v := by
  constructor
  · rw [List.nodup_append]
    refine ⟨h.nodup, List.nodup_cons.mpr ⟨by simp, List.nodup_nil⟩, ?_⟩
    intro a ha b hb hab
    rw [List.mem_singleton.mp hb] at hab
    exact hnot (hab ▸ ha)
  · refine List.IsChain.append h.chain (.singleton v) ?_
    intro x hx y hy
    rw [List.getLast?_concat, Option.mem_some] at hx
    rw [List.head?_singleton, Option.mem_some] at hy
    exact hx ▸ hy ▸ hlead

/-- The reported path is the stack from `name` on, closed by `name`. -/
theorem cycleAt_eq {name : String} {stack : List String} (h : name ∈ stack) :
    ∃ walk, cycleAt name stack = name :: walk ++ [name] ∧ name :: walk <:+ stack := by
  rw [cycleAt]
  induction stack with
  | nil => cases h
  | cons x rest ih =>
    by_cases hx : x = name
    · exact ⟨rest, by simp [hx], hx ▸ List.suffix_refl _⟩
    · rw [List.dropWhile_cons_of_pos (by simpa using hx)]
      obtain ⟨walk, hwalk, hsuffix⟩ := ih ((List.mem_cons.mp h).resolve_left (Ne.symm hx))
      exact ⟨walk, hwalk, hsuffix.trans (List.suffix_cons x rest)⟩

theorem genuine_cyclic {s : Schema} {stack : List String} {name : String}
    (h : Trail s stack name) (hmem : name ∈ stack) :
    (SchemaError.cyclic (cycleAt name stack)).Genuine s name := by
  obtain ⟨walk, hcycle, hsuffix⟩ := cycleAt_eq hmem
  have hchain : (name :: walk ++ [name]).IsChain s.Leads :=
    h.chain.suffix (List.suffix_append_self_iff.mpr hsuffix)
  rw [hcycle]
  exact ⟨name, walk, rfl, h.nodup.sublist hsuffix.sublist, hchain,
    reflTransGen_of_mem_chain hchain⟩

end Trail

end RecordSearch
