import RecordSearch.Proofs.Registry.Overwriting
import RecordSearch.Proofs.Registry.RelationGraph

/-!
What the registry of a type is, said without a stack and without registries that are kept:
`Registers` follows the declarations of a type in order, and for a relation the declarations of the
related type.

* A type has at most one registry (`Builds.unique`);
* a type that has one is resolvable (`Builds.resolvable`): whatever it reaches has a registry too,
  and the derivation, being finite, goes round no cycle.
-/

open Relation

namespace RecordSearch

/-- The declarations, of type `t` named `owner`, turn the registry `r` into the last one. -/
inductive Registers (s : Schema) :
    String → RecordType → List Declaration → FieldRegistry → FieldRegistry → Prop
  | nil {owner t r} : Registers s owner t [] r r
  | field {owner t d ds r r'} :
      t.relation? d.field = none → t.hasField d.field = true →
      Registers s owner t ds (r.insert (.direct owner d)) r' →
      Registers s owner t (d :: ds) r r'
  | relation {owner t d ds r r'} {relation : Relation} {u inner} :
      t.relation? d.field = some relation → s.get? relation.target = some u →
      Registers s relation.target u u.declarations (.empty relation.target) inner →
      Registers s owner t ds (r.insertAll (exposedThrough owner d inner)) r' →
      Registers s owner t (d :: ds) r r'

def Builds (s : Schema) (name : String) (r : FieldRegistry) : Prop :=
  ∃ t, s.get? name = some t ∧ Registers s name t t.declarations (.empty name) r

/-! ## Uniqueness -/

theorem Registers.unique {s : Schema} {owner : String} {t : RecordType} {ds : List Declaration}
    {r a b : FieldRegistry} (ha : Registers s owner t ds r a) (hb : Registers s owner t ds r b) :
    a = b := by
  induction ha generalizing b with
  | nil =>
    cases hb
    rfl
  | field hrel _ _ ih =>
    cases hb with
    | field _ _ hrest => exact ih hrest
    | relation hrel' => rw [hrel] at hrel'; cases hrel'
  | relation hrel hget _ _ ihinner ih =>
    cases hb with
    | field hrel' => rw [hrel] at hrel'; cases hrel'
    | relation hrel' hget' hinner hrest =>
      rw [hrel] at hrel'
      cases hrel'
      rw [hget] at hget'
      cases hget'
      rw [← ihinner hinner] at hrest
      exact ih hrest

theorem Builds.unique {s : Schema} {name : String} {a b : FieldRegistry} (ha : Builds s name a)
    (hb : Builds s name b) : a = b := by
  obtain ⟨t, ht, ha⟩ := ha
  obtain ⟨t', ht', hb⟩ := hb
  rw [ht] at ht'
  cases ht'
  exact ha.unique hb

/-! ## Related types -/

theorem Registers.declared {s : Schema} {owner : String} {t : RecordType} {ds : List Declaration}
    {r r' : FieldRegistry} (h : Registers s owner t ds r r') :
    ∀ d ∈ ds, t.hasField d.field = true ∨ ∃ relation, t.relation? d.field = some relation := by
  induction h with
  | nil => simp
  | field _ hfield _ ih => simpa [hfield] using ih
  | relation hrel _ _ _ _ ih => simpa [hrel] using ih

/-- What holds of a type that has a registry as soon as it holds of the types that its declarations
lead to, holds of all these types. -/
theorem Registers.forall_target {s : Schema} {P : String → Prop}
    (hP : ∀ u t r, s.get? u = some t → Registers s u t t.declarations (.empty u) r →
      (∀ d ∈ t.declarations, ∀ relation, t.relation? d.field = some relation →
        P relation.target) → P u)
    {owner : String} {t : RecordType} {ds : List Declaration} {r r' : FieldRegistry}
    (h : Registers s owner t ds r r') :
    ∀ d ∈ ds, ∀ relation, t.relation? d.field = some relation → P relation.target := by
  induction h with
  | nil => simp
  | field hrel _ _ ih => simpa [hrel] using ih
  | relation hrel hget hinner _ ihinner ih =>
    intro e he relation hsome
    rcases List.mem_cons.mp he with rfl | he
    · rw [hrel] at hsome
      cases hsome
      exact hP _ _ _ hget hinner ihinner
    · exact ih e he relation hsome

theorem Builds.of_leads {s : Schema} {u v : String} {r : FieldRegistry} (h : Builds s u r)
    (huv : s.Leads u v) : ∃ r', Builds s v r' := by
  obtain ⟨t, ht, hr⟩ := h
  obtain ⟨t', d, relation, ht', hd, hrel, rfl⟩ := huv
  rw [ht] at ht'
  cases ht'
  exact hr.forall_target (P := fun v => ∃ r', Builds s v r')
    (fun _ t r ht hr _ => ⟨r, t, ht, hr⟩) d hd relation hrel

theorem Builds.of_reaches {s : Schema} {u v : String} {r : FieldRegistry} (h : Builds s u r)
    (huv : s.Reaches u v) : ∃ r', Builds s v r' := by
  induction huv with
  | refl => exact ⟨r, h⟩
  | tail _ hlead ih =>
    obtain ⟨r', hr'⟩ := ih
    exact hr'.of_leads hlead

/-! ## No cycles -/

theorem acc_of_targets {s : Schema} {name : String} {t : RecordType} (ht : s.get? name = some t)
    (h : ∀ d ∈ t.declarations, ∀ relation, t.relation? d.field = some relation →
      Acc (fun v u => s.Leads u v) relation.target) :
    Acc (fun v u => s.Leads u v) name := by
  refine .intro name fun v hv => ?_
  obtain ⟨t', d, relation, ht', hd, hrel, rfl⟩ := hv
  rw [ht] at ht'
  cases ht'
  exact h d hd relation hrel

theorem Builds.acc {s : Schema} {name : String} {r : FieldRegistry} (h : Builds s name r) :
    Acc (fun v u => s.Leads u v) name := by
  obtain ⟨t, ht, hr⟩ := h
  exact acc_of_targets ht (hr.forall_target fun _ _ _ ht _ => acc_of_targets ht)

theorem Builds.resolvable {s : Schema} {name : String} {r : FieldRegistry} (h : Builds s name r) :
    s.Resolvable name where
  defined u hu := by
    obtain ⟨_, t, ht, _⟩ := h.of_reaches hu
    exact ⟨t, ht⟩
  declared u t hu ht := by
    obtain ⟨_, t', ht', hr⟩ := h.of_reaches hu
    rw [ht] at ht'
    cases ht'
    exact hr.declared
  acyclic u hu := by
    obtain ⟨r', hr'⟩ := h.of_reaches hu
    exact not_transGen_self_of_acc hr'.acc

theorem Builds.not_genuine {s : Schema} {name : String} {r : FieldRegistry} {e : SchemaError}
    (h : Builds s name r) : ¬ e.Genuine s name :=
  fun he => SchemaError.not_resolvable_of_genuine he h.resolvable

theorem Builds.not_mem_of_trail {s : Schema} {stack : List String} {name : String}
    {r : FieldRegistry} (h : Builds s name r) (htrail : Trail s stack name) : name ∉ stack :=
  fun hmem => h.not_genuine (htrail.genuine_cyclic hmem)

end RecordSearch
