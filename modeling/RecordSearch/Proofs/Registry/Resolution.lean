import Mathlib
import RecordSearch.Proofs.Registry.Derivation

/-!
`resolve` against the derivations of `Builds`, whatever registries are kept when it starts, as long
as they are right (`Progress.Sound`).

* `resolve_and_buildFrom_settle`: it keeps right registries only, and answers with the registry of
  the type or with an error that is genuine;
* `resolve_of_builds`: a type that has a registry gets it, whatever is kept;
* `registry_ok_iff_resolvable`: a fresh registry builds exactly for the resolvable types.
-/

open Relation

namespace RecordSearch

/-! ## Kept registries -/

namespace Progress

/-- The kept registries are those of their types. -/
def Sound (s : Schema) (p : Progress) : Prop :=
  ∀ name r, p.built.lookup name = some r → Builds s name r

theorem sound_empty (s : Schema) : Sound s empty := by
  intro name r h
  cases h

theorem Sound.complete {s : Schema} {p : Progress} {name : String} {r : FieldRegistry}
    (h : Sound s p) (hr : Builds s name r) : Sound s (p.complete name r) := by
  intro other r' hlookup
  rw [Progress.complete, List.lookup_cons] at hlookup
  split at hlookup
  · rename_i heq
    rw [beq_iff_eq] at heq
    cases hlookup
    exact heq ▸ hr
  · exact h other r' hlookup

theorem built_register (p : Progress) (r : FieldRegistry) (d : FieldDescriptor) :
    (p.register r d).2.built = p.built := by
  unfold register
  split <;> rfl

theorem registerAll_fst (p : Progress) (r : FieldRegistry) (ds : List FieldDescriptor) :
    (p.registerAll r ds).1 = r.insertAll ds := by
  induction ds generalizing p r with
  | nil => rfl
  | cons d ds ih => exact ih (p.register r d).2 (p.register r d).1

theorem built_registerAll (p : Progress) (r : FieldRegistry) (ds : List FieldDescriptor) :
    (p.registerAll r ds).2.built = p.built := by
  induction ds generalizing p r with
  | nil => rfl
  | cons d ds ih =>
    have h := ih (p.register r d).2 (p.register r d).1
    rwa [built_register] at h

theorem Sound.of_built_eq {s : Schema} {p q : Progress} (h : Sound s p) (heq : q.built = p.built) :
    Sound s q := by
  intro name r hlookup
  rw [heq] at hlookup
  exact h name r hlookup

end Progress

/-! ## Steps -/

section Steps

variable {s : Schema} {stack : List String} {name : String} {p : Progress}

theorem resolve_of_unknown (ht : s.get? name = none) :
    resolve s stack name p = (.error (.unknownType name), p) := by
  unfold resolve
  split <;> simp_all

theorem resolve_of_built {t : RecordType} {r : FieldRegistry} (ht : s.get? name = some t)
    (hb : p.built.lookup name = some r) : resolve s stack name p = (.ok r, p) := by
  unfold resolve
  split <;> simp_all

/-- A type whose registry is not kept. -/
theorem resolve_of_not_built {t : RecordType} (ht : s.get? name = some t)
    (hb : p.built.lookup name = none) :
    resolve s stack name p =
      if name ∈ stack then (.error (.cyclic (cycleAt name stack)), p)
      else
        match buildFrom s (stack ++ [name]) name t t.declarations (.empty name) p with
        | (.ok r, p) => (.ok r, p.complete name r)
        | (.error e, p) => (.error e, p) := by
  rw [resolve]
  split
  · rename_i hnone
    rw [ht] at hnone
    cases hnone
  · rename_i t' ht'
    rw [ht] at ht'
    cases ht'
    rw [hb]
    dsimp only
    by_cases hs : name ∈ stack
    · rw [if_pos hs, dif_pos (List.contains_iff_mem.mpr hs)]
    · rw [dif_neg (mt List.contains_iff_mem.mp hs)]
      exact (if_neg hs).symm

variable {owner : String} {t : RecordType} {d : Declaration} {ds : List Declaration}
  {r : FieldRegistry}

theorem buildFrom_field (hrel : t.relation? d.field = none) (hfield : t.hasField d.field = true) :
    buildFrom s stack owner t (d :: ds) r p =
      buildFrom s stack owner t ds (r.insert (.direct owner d))
        (p.register r (.direct owner d)).2 := by
  rw [buildFrom, hrel]
  simp only [hfield, ↓reduceIte]
  rfl

theorem buildFrom_unknownField (hrel : t.relation? d.field = none)
    (hfield : ¬ t.hasField d.field = true) :
    buildFrom s stack owner t (d :: ds) r p = (.error (.unknownField owner d.field), p) := by
  rw [buildFrom, hrel]
  exact if_neg hfield

theorem buildFrom_unknownTarget {relation : Relation} (hrel : t.relation? d.field = some relation)
    (hget : (s.get? relation.target).isNone = true) :
    buildFrom s stack owner t (d :: ds) r p =
      (.error (.unknownTarget owner d.field relation.target), p) := by
  rw [buildFrom, hrel]
  simp only [hget, ↓reduceIte]

theorem buildFrom_relation {relation : Relation} (hrel : t.relation? d.field = some relation)
    (hget : ¬ (s.get? relation.target).isNone = true) :
    buildFrom s stack owner t (d :: ds) r p =
      match resolve s stack relation.target p with
      | (.error e, p) => (.error e, p)
      | (.ok inner, p) =>
        buildFrom s stack owner t ds (r.insertAll (exposedThrough owner d inner))
          (p.registerAll r (exposedThrough owner d inner)).2 := by
  rw [buildFrom, hrel]
  simp only [hget, Progress.registerAll_fst]
  rfl

end Steps

/-! ## Answers -/

/-- The answer for the type `name` is a registry of which `P` holds, or an error that is genuine. -/
def Settles (s : Schema) (name : String) (P : FieldRegistry → Prop) :
    Except SchemaError FieldRegistry → Prop
  | .ok r => P r
  | .error e => e.Genuine s name

theorem Settles.imp {s : Schema} {name : String} {P Q : FieldRegistry → Prop}
    {a : Except SchemaError FieldRegistry} (h : Settles s name P a) (himp : ∀ r, P r → Q r) :
    Settles s name Q a := by
  cases a with
  | ok r => exact himp r h
  | error e => exact h

/-- `declarations` are some of those of the type `owner`, and whatever type it leads to can be
resolved next with this stack. -/
structure Under (s : Schema) (stack : List String) (owner : String) (t : RecordType)
    (declarations : List Declaration) : Prop where
  get : s.get? owner = some t
  trail : ∀ v, s.Leads owner v → Trail s stack v
  subset : ∀ d ∈ declarations, d ∈ t.declarations

namespace Under

variable {s : Schema} {stack : List String} {owner : String} {t : RecordType} {d : Declaration}
  {ds : List Declaration}

theorem of_trail (h : Trail s stack owner) (ht : s.get? owner = some t) (hnot : owner ∉ stack) :
    Under s (stack ++ [owner]) owner t t.declarations :=
  ⟨ht, fun _ hv => h.push hnot hv, fun _ hd => hd⟩

theorem tail (h : Under s stack owner t (d :: ds)) : Under s stack owner t ds :=
  ⟨h.get, h.trail, fun e he => h.subset e (List.mem_cons_of_mem d he)⟩

theorem mem (h : Under s stack owner t (d :: ds)) : d ∈ t.declarations :=
  h.subset d List.mem_cons_self

theorem leads (h : Under s stack owner t (d :: ds)) {relation : Relation}
    (hrel : t.relation? d.field = some relation) : s.Leads owner relation.target :=
  ⟨t, d, relation, h.get, h.mem, hrel, rfl⟩

end Under

theorem resolve_and_buildFrom_settle (s : Schema) :
    (∀ stack name p, Trail s stack name → p.Sound s →
      (resolve s stack name p).2.Sound s ∧ Settles s name (Builds s name) (resolve s stack name p).1) ∧
    (∀ stack owner t ds r p, Under s stack owner t ds → p.Sound s →
      (buildFrom s stack owner t ds r p).2.Sound s ∧
        Settles s owner (Registers s owner t ds r) (buildFrom s stack owner t ds r p).1) := by
  refine resolve.mutual_induct s _ _ ?unknown ?built ?cyclic ?completed ?failed
    ?nil ?field ?unknownField ?unknownTarget ?relatedFailed ?related
  case unknown =>
    intro stack name p ht htrail hp
    rw [resolve_of_unknown ht]
    exact ⟨hp, rfl, ht⟩
  case built =>
    intro stack name p t ht r hb htrail hp
    rw [resolve_of_built ht hb]
    exact ⟨hp, hp name r hb⟩
  case cyclic =>
    intro stack name p t ht hb hs htrail hp
    have hmem : name ∈ stack := List.contains_iff_mem.mp hs
    rw [resolve_of_not_built ht hb, if_pos hmem]
    exact ⟨hp, htrail.genuine_cyclic hmem⟩
  case completed =>
    intro stack name p t ht hb hs r p' heq ih htrail hp
    have hnot : name ∉ stack := fun h => hs (List.contains_iff_mem.mpr h)
    rw [resolve_of_not_built ht hb, if_neg hnot, heq]
    obtain ⟨hp', hr⟩ := ih (.of_trail htrail ht hnot) hp
    rw [heq] at hp' hr
    exact ⟨hp'.complete ⟨t, ht, hr⟩, t, ht, hr⟩
  case failed =>
    intro stack name p t ht hb hs e p' heq ih htrail hp
    have hnot : name ∉ stack := fun h => hs (List.contains_iff_mem.mpr h)
    rw [resolve_of_not_built ht hb, if_neg hnot, heq]
    have h := ih (.of_trail htrail ht hnot) hp
    rw [heq] at h
    exact h
  case nil =>
    intro stack owner t r p hunder hp
    rw [buildFrom]
    exact ⟨hp, .nil⟩
  case field =>
    intro stack owner t r p d ds hrel hfield r' p' hreg ih hunder hp
    obtain ⟨rfl, rfl⟩ := Prod.mk.inj hreg
    rw [buildFrom_field hrel hfield]
    obtain ⟨hp', h⟩ := ih hunder.tail (hp.of_built_eq (p.built_register r _))
    exact ⟨hp', h.imp fun r' => .field hrel hfield⟩
  case unknownField =>
    intro stack owner t r p d ds hrel hfield hunder hp
    rw [buildFrom_unknownField hrel hfield]
    exact ⟨hp, .refl, t, hunder.get, ⟨d, hunder.mem, rfl⟩, Bool.not_eq_true _ ▸ hfield, hrel⟩
  case unknownTarget =>
    intro stack owner t r p d ds relation hrel hget hunder hp
    rw [buildFrom_unknownTarget hrel hget]
    exact ⟨hp, .refl, t, relation, hunder.get, ⟨d, hunder.mem, rfl⟩, hrel, rfl,
      Option.isNone_iff_eq_none.mp hget⟩
  case relatedFailed =>
    intro stack owner t r p d ds relation hrel hget e p' heq ih hunder hp
    rw [buildFrom_relation hrel hget, heq]
    obtain ⟨hp', he⟩ := ih (hunder.trail _ (hunder.leads hrel)) hp
    rw [heq] at hp' he
    obtain ⟨u, hu⟩ := Option.ne_none_iff_exists'.mp (mt Option.isNone_iff_eq_none.mpr hget)
    exact ⟨hp', SchemaError.Genuine.of_leads (hunder.leads hrel) hu he⟩
  case related =>
    intro stack owner t r p d ds relation hrel hget inner p' heq r' p'' hreg ih ihrest hunder hp
    obtain ⟨rfl, rfl⟩ := Prod.mk.inj hreg
    rw [Progress.registerAll_fst] at ihrest
    rw [buildFrom_relation hrel hget, heq]
    have hinner := ih (hunder.trail _ (hunder.leads hrel)) hp
    rw [heq] at hinner
    obtain ⟨hp', u, hu, hinner⟩ := hinner
    obtain ⟨hp'', h⟩ := ihrest hunder.tail (hp'.of_built_eq (p'.built_registerAll r _))
    exact ⟨hp'', h.imp fun r' => .relation hrel hu hinner⟩

section Resolve

variable {s : Schema} {stack : List String} {name : String} {p : Progress}

theorem sound_resolve (htrail : Trail s stack name) (hp : p.Sound s) :
    (resolve s stack name p).2.Sound s :=
  ((resolve_and_buildFrom_settle s).1 stack name p htrail hp).1

theorem settles_resolve (htrail : Trail s stack name) (hp : p.Sound s) :
    Settles s name (Builds s name) (resolve s stack name p).1 :=
  ((resolve_and_buildFrom_settle s).1 stack name p htrail hp).2

/-- A type that has a registry gets it: what is on the stack leads to the type, so the type does not
come back to it. -/
theorem resolve_of_builds {r : FieldRegistry} (htrail : Trail s stack name) (hp : p.Sound s)
    (hr : Builds s name r) : (resolve s stack name p).1 = .ok r := by
  have h := settles_resolve htrail hp
  cases ha : (resolve s stack name p).1 with
  | ok r' =>
    rw [ha] at h
    rw [Builds.unique h hr]
  | error e =>
    rw [ha] at h
    exact absurd h hr.not_genuine

end Resolve

/-! ## Fresh registries -/

theorem settles_registry (s : Schema) (name : String) :
    Settles s name (Builds s name) (s.registry name) :=
  settles_resolve (.nil s name) (Progress.sound_empty s)

theorem registry_eq_ok_iff {s : Schema} {name : String} {r : FieldRegistry} :
    s.registry name = .ok r ↔ Builds s name r := by
  constructor
  · intro h
    have hs := settles_registry s name
    rwa [h] at hs
  · exact resolve_of_builds (.nil s name) (Progress.sound_empty s)

theorem genuine_of_registry {s : Schema} {name : String} {e : SchemaError}
    (h : s.registry name = .error e) : e.Genuine s name := by
  have hs := settles_registry s name
  rwa [h] at hs

/-- The registry of a type builds exactly if everything the type reaches is in order, and what is
reported otherwise is so. -/
theorem registry_ok_iff_resolvable (s : Schema) (name : String) :
    ((∃ r, s.registry name = .ok r) ↔ s.Resolvable name) ∧
      ∀ e, s.registry name = .error e → e.Genuine s name := by
  refine ⟨⟨?_, ?_⟩, fun e => genuine_of_registry⟩
  · rintro ⟨r, hr⟩
    exact (registry_eq_ok_iff.mp hr).resolvable
  · intro hres
    cases h : s.registry name with
    | ok r => exact ⟨r, rfl⟩
    | error e => exact absurd hres (SchemaError.not_resolvable_of_genuine (genuine_of_registry h))

/-- Users and teams, which contain each other, below posts, which are on no cycle. -/
def circularSchema : Schema := Schema.empty
  |>.insert "post" (.ofParts ["title"] [("author", ⟨"user", .one⟩)]
      [⟨"title", .empty⟩, ⟨"author", .empty⟩])
  |>.insert "team" (.ofParts ["name"] [("members", ⟨"user", .many⟩)]
      [⟨"name", .empty⟩, ⟨"members", .empty⟩])
  |>.insert "user" (.ofParts ["name"] [("teams", ⟨"team", .many⟩)]
      [⟨"name", .empty⟩, ⟨"teams", .empty⟩])

theorem genuine_circularSchema :
    circularSchema.registry "post" = .error (.cyclic ["user", "team", "user"]) ∧
      (SchemaError.cyclic ["user", "team", "user"]).Genuine circularSchema "post" := by
  have h : circularSchema.registry "post" = .error (.cyclic ["user", "team", "user"]) := by cbv
  exact ⟨h, (registry_ok_iff_resolvable circularSchema "post").2 _ h⟩

end RecordSearch
