import RecordSearch.Command.Check
import RecordSearch.Proofs.Registry.Resolution

/-!
Many requests to one catalog. The registries it keeps from earlier requests, whether these were
answered or failed, do not show in a later answer.

* `resolve_and_buildFrom_congr`: two runs that start from different kept registries, all of them
  right, give the same answer, down to the reported path;
* `Catalog.Sound` holds of a fresh catalog and is kept by every request (`Catalog.sound_answer`);
* `answers_eq_fresh_and_check_eq_fresh`: a catalog that is asked again and again, and the check of a
  configuration in particular, answers as if a fresh catalog were asked each time.
-/

open Relation

namespace RecordSearch

/-! ## Two runs -/

section Congr

variable {s : Schema} {stack : List String} {name : String} {p q : Progress}

theorem resolve_answer_of_not_built {t : RecordType} (ht : s.get? name = some t)
    (hb : p.built.lookup name = none) (hs : name ∉ stack) :
    (resolve s stack name p).1 =
      (buildFrom s (stack ++ [name]) name t t.declarations (.empty name) p).1 := by
  rw [resolve_of_not_built ht hb, if_neg hs]
  rcases buildFrom s (stack ++ [name]) name t t.declarations (.empty name) p with ⟨_ | _, _⟩ <;> rfl

theorem resolve_congr_of_builds {r : FieldRegistry} (htrail : Trail s stack name) (hp : p.Sound s)
    (hq : q.Sound s) (hr : Builds s name r) :
    (resolve s stack name p).1 = (resolve s stack name q).1 := by
  rw [resolve_of_builds htrail hp hr, resolve_of_builds htrail hq hr]

/-- Unless one of the runs has the registry of the type already, both go through its declarations. -/
theorem resolve_congr_of_buildFrom {t : RecordType} (htrail : Trail s stack name) (hp : p.Sound s)
    (hq : q.Sound s) (ht : s.get? name = some t) (hb : p.built.lookup name = none)
    (hs : name ∉ stack)
    (h : (buildFrom s (stack ++ [name]) name t t.declarations (.empty name) p).1 =
      (buildFrom s (stack ++ [name]) name t t.declarations (.empty name) q).1) :
    (resolve s stack name p).1 = (resolve s stack name q).1 := by
  cases hb' : q.built.lookup name with
  | some r => exact resolve_congr_of_builds htrail hp hq (hq name r hb')
  | none => rw [resolve_answer_of_not_built ht hb hs, resolve_answer_of_not_built ht hb' hs, h]

end Congr

theorem resolve_and_buildFrom_congr (s : Schema) :
    (∀ stack name p, ∀ q, Trail s stack name → p.Sound s → q.Sound s →
      (resolve s stack name p).1 = (resolve s stack name q).1) ∧
    (∀ stack owner t ds r p, ∀ q, Under s stack owner t ds → p.Sound s → q.Sound s →
      (buildFrom s stack owner t ds r p).1 = (buildFrom s stack owner t ds r q).1) := by
  refine resolve.mutual_induct s _ _ ?unknown ?built ?cyclic ?completed ?failed
    ?nil ?field ?unknownField ?unknownTarget ?relatedFailed ?related
  case unknown =>
    intro stack name p ht q htrail hp hq
    rw [resolve_of_unknown ht, resolve_of_unknown ht]
  case built =>
    intro stack name p t ht r hb q htrail hp hq
    exact resolve_congr_of_builds htrail hp hq (hp name r hb)
  case cyclic =>
    intro stack name p t ht hb hs q htrail hp hq
    have hmem : name ∈ stack := List.contains_iff_mem.mp hs
    cases hb' : q.built.lookup name with
    | some r => exact resolve_congr_of_builds htrail hp hq (hq name r hb')
    | none => rw [resolve_of_not_built ht hb, resolve_of_not_built ht hb', if_pos hmem, if_pos hmem]
  case completed =>
    intro stack name p t ht hb hs r p' _ ih q htrail hp hq
    have hnot : name ∉ stack := fun h => hs (List.contains_iff_mem.mpr h)
    exact resolve_congr_of_buildFrom htrail hp hq ht hb hnot
      (ih q (.of_trail htrail ht hnot) hp hq)
  case failed =>
    intro stack name p t ht hb hs e p' _ ih q htrail hp hq
    have hnot : name ∉ stack := fun h => hs (List.contains_iff_mem.mpr h)
    exact resolve_congr_of_buildFrom htrail hp hq ht hb hnot
      (ih q (.of_trail htrail ht hnot) hp hq)
  case nil =>
    intro stack owner t r p q _ _ _
    rw [buildFrom, buildFrom]
  case field =>
    intro stack owner t r p d ds hrel hfield r' p' hreg ih q hunder hp hq
    obtain ⟨rfl, rfl⟩ := Prod.mk.inj hreg
    rw [buildFrom_field hrel hfield, buildFrom_field hrel hfield]
    exact ih _ hunder.tail (hp.of_built_eq (p.built_register r _))
      (hq.of_built_eq (q.built_register r _))
  case unknownField =>
    intro stack owner t r p d ds hrel hfield q _ _ _
    rw [buildFrom_unknownField hrel hfield, buildFrom_unknownField hrel hfield]
  case unknownTarget =>
    intro stack owner t r p d ds relation hrel hget q _ _ _
    rw [buildFrom_unknownTarget hrel hget, buildFrom_unknownTarget hrel hget]
  case relatedFailed =>
    intro stack owner t r p d ds relation hrel hget e p' heq ih q hunder hp hq
    have h := ih q (hunder.trail _ (hunder.leads hrel)) hp hq
    rw [buildFrom_relation hrel hget, buildFrom_relation hrel hget]
    rcases hres : resolve s stack relation.target q with ⟨a, q'⟩
    rw [heq, hres] at h
    cases h
    rw [heq]
  case related =>
    intro stack owner t r p d ds relation hrel hget inner p' heq r' p'' hreg ih ihrest q hunder hp hq
    obtain ⟨rfl, rfl⟩ := Prod.mk.inj hreg
    have htrail := hunder.trail _ (hunder.leads hrel)
    have h := ih q htrail hp hq
    have hp' := sound_resolve htrail hp
    have hq' := sound_resolve htrail hq
    rw [buildFrom_relation hrel hget, buildFrom_relation hrel hget]
    rcases hres : resolve s stack relation.target q with ⟨a, q'⟩
    rw [heq, hres] at h
    rw [heq] at hp'
    rw [hres] at hq'
    cases h
    rw [heq]
    rw [Progress.registerAll_fst] at ihrest
    exact ihrest _ hunder.tail (hp'.of_built_eq (p'.built_registerAll r _))
      (hq'.of_built_eq (q'.built_registerAll r _))

/-! ## Requests -/

namespace Catalog

inductive Request where
  | registry (name : String)
  | validate
  deriving DecidableEq, Repr

inductive Answer where
  | registry (a : Except SchemaError FieldRegistry)
  | validate (a : Except SchemaError Unit)
  deriving DecidableEq

def answer (c : Catalog) : Request → Answer × Catalog
  | .registry name => (.registry (c.registry name).1, (c.registry name).2)
  | .validate => (.validate c.validate.1, c.validate.2)

/-- The answers to requests that are made one after the other. -/
def answers (c : Catalog) : List Request → List Answer
  | [] => []
  | q :: qs => (c.answer q).1 :: (c.answer q).2.answers qs

/-- The kept registries are those of the types of the schema. -/
def Sound (c : Catalog) : Prop := c.progress.Sound c.schema

variable {c : Catalog}

theorem sound_ofSchema (s : Schema) : (ofSchema s).Sound := Progress.sound_empty s

theorem sound_registry (h : c.Sound) (name : String) : (c.registry name).2.Sound :=
  sound_resolve (.nil c.schema name) h

theorem schema_registry (c : Catalog) (name : String) : (c.registry name).2.schema = c.schema := rfl

theorem registry_eq_fresh (h : c.Sound) (name : String) :
    (c.registry name).1 = c.schema.registry name :=
  (resolve_and_buildFrom_congr c.schema).1 [] name c.progress .empty (.nil c.schema name) h
    (Progress.sound_empty c.schema)

/-- The first error among the registries of the names, each built for itself. -/
def firstError (s : Schema) : List String → Except SchemaError Unit
  | [] => .ok ()
  | name :: names =>
    match s.registry name with
    | .error e => .error e
    | .ok _ => firstError s names

theorem validateAll_spec (h : c.Sound) (names : List String) :
    (c.validateAll names).1 = firstError c.schema names ∧
      (c.validateAll names).2.Sound ∧ (c.validateAll names).2.schema = c.schema := by
  induction names generalizing c with
  | nil => exact ⟨rfl, h, rfl⟩
  | cons name names ih =>
    have hfresh := registry_eq_fresh h name
    have hsound := sound_registry h name
    have hschema := schema_registry c name
    rw [validateAll, firstError]
    rcases hreg : c.registry name with ⟨e | r, c'⟩ <;> rw [hreg] at hfresh hsound hschema
    · rw [← hfresh]
      exact ⟨rfl, hsound, hschema⟩
    · rw [← hfresh]
      obtain ⟨hanswer, hsound', hschema'⟩ := ih hsound
      rw [hschema] at hanswer hschema'
      exact ⟨hanswer, hsound', hschema'⟩

theorem sound_answer (h : c.Sound) (q : Request) : (c.answer q).2.Sound := by
  cases q with
  | registry name => exact sound_registry h name
  | validate => exact (validateAll_spec h c.schema.names).2.1

theorem schema_answer (h : c.Sound) (q : Request) : (c.answer q).2.schema = c.schema := by
  cases q with
  | registry name => rfl
  | validate => exact (validateAll_spec h c.schema.names).2.2

theorem answer_eq_fresh (h : c.Sound) (q : Request) :
    (c.answer q).1 = ((ofSchema c.schema).answer q).1 := by
  cases q with
  | registry name => exact congrArg Answer.registry (registry_eq_fresh h name)
  | validate =>
    have hfresh := (validateAll_spec (sound_ofSchema c.schema) c.schema.names).1
    exact congrArg Answer.validate ((validateAll_spec h c.schema.names).1.trans hfresh.symm)

theorem answers_of_sound (h : c.Sound) (requests : List Request) :
    c.answers requests = requests.map fun q => ((ofSchema c.schema).answer q).1 := by
  induction requests generalizing c with
  | nil => rfl
  | cons q qs ih =>
    rw [answers, List.map_cons, answer_eq_fresh h q, ih (sound_answer h q), schema_answer h q]

end Catalog

/-! ## The check of a configuration -/

namespace Command

/-- The line is the one for the answer of a fresh catalog, after what was redeclared on the way. -/
def TypeLine.AsFresh (s : Schema) (line : TypeLine) (name : String) : Prop :=
  line.out = (typeLine name (s.registry name)).out ∧
    line.built = (typeLine name (s.registry name)).built ∧
    ∃ redeclared : List Redeclaration, line.err =
      String.join (redeclared.map redeclarationLine) ++ (typeLine name (s.registry name)).err

theorem typeLines_asFresh {c : Catalog} (h : c.Sound) (names : List String) :
    List.Forall₂ (TypeLine.AsFresh c.schema) (typeLines c names) names := by
  induction names generalizing c with
  | nil => exact .nil
  | cons name names ih =>
    refine .cons ?_ (ih (c.sound_registry h name))
    rw [TypeLine.AsFresh, ← Catalog.registry_eq_fresh h name]
    exact ⟨rfl, rfl, _, rfl⟩

theorem built_typeLine (name : String) (a : Except SchemaError FieldRegistry) :
    (typeLine name a).built = true ↔ ∃ r, a = .ok r := by
  cases a with
  | ok r => simp [typeLine]
  | error e => simp [typeLine]

theorem not_exists_ok_iff {a : Except SchemaError FieldRegistry} :
    (¬ ∃ r, a = .ok r) ↔ ∃ e, a = .error e := by
  cases a with
  | ok r => simp
  | error e => simp

theorem out_typeLine (name : String) (a : Except SchemaError FieldRegistry) :
    (typeLine name a).out =
      match a with
      | .ok r => "  " ++ name ++ ": " ++ toString r.fields.length ++ " searchable fields\n"
      | .error _ => "  " ++ name ++ ": error\n" := by
  cases a <;> rfl

theorem err_typeLine (name : String) (a : Except SchemaError FieldRegistry) :
    (typeLine name a).err =
      match a with
      | .ok _ => ""
      | .error e => "error: " ++ e.message ++ "\n" := by
  cases a <;> rfl

theorem all_built_iff {s : Schema} {lines : List TypeLine} {names : List String}
    (h : List.Forall₂ (TypeLine.AsFresh s) lines names) :
    lines.all (·.built) = true ↔ ∀ name ∈ names, ∃ r, s.registry name = .ok r := by
  induction h with
  | nil => simp
  | cons hline _ ih =>
    rw [List.all_cons, Bool.and_eq_true, ih, hline.2.1, built_typeLine, List.forall_mem_cons]

theorem map_out_of_asFresh {s : Schema} {lines : List TypeLine} {names : List String}
    (h : List.Forall₂ (TypeLine.AsFresh s) lines names) :
    lines.map (·.out) = names.map fun name => (typeLine name (s.registry name)).out := by
  induction h with
  | nil => rfl
  | cons hline _ ih => rw [List.map_cons, List.map_cons, hline.1, ih]

/-- The report of a check, in terms of the lines for the types. -/
theorem check_eq_of_typeLines (loaded : LoadedConfig) {lines : List TypeLine}
    (h : typeLines loaded.config.catalog loaded.config.schema.names = lines) :
    (check loaded).err = String.join (lines.map (·.err)) ∧
      (check loaded).out = checkHeading loaded ++
        (if loaded.config.schema.names = [] then "No record types defined.\n"
          else (typesReport lines).out) ∧
      (check loaded).code = if lines.all (·.built) then 0 else 1 := by
  unfold check
  cases hnames : loaded.config.schema.names with
  | nil =>
    rw [hnames] at h
    subst h
    exact ⟨rfl, rfl, rfl⟩
  | cons name names =>
    rw [hnames] at h
    subst h
    exact ⟨rfl, rfl, rfl⟩

end Command

/-- One catalog that is asked for registries and validations in any order answers each request as a
fresh one does. So the check of a configuration, which asks one catalog for every type, prints an
error for the types whose registries do not build by themselves, and the number of fields for the
others; which redeclarations are told on the way depends on what was built before. -/
theorem answers_eq_fresh_and_check_eq_fresh (s : Schema) (requests : List Catalog.Request)
    (loaded : LoadedConfig) :
    ((Catalog.ofSchema s).answers requests =
      requests.map fun q => ((Catalog.ofSchema s).answer q).1) ∧
    (Command.check loaded).out = Command.checkHeading loaded ++
      (if loaded.config.schema.names = [] then "No record types defined.\n"
        else "Record types:\n" ++
          String.join (loaded.config.schema.names.map fun name =>
            match loaded.config.schema.registry name with
            | .ok r => "  " ++ name ++ ": " ++ toString r.fields.length ++ " searchable fields\n"
            | .error _ => "  " ++ name ++ ": error\n") ++ "\n" ++
          (if (Command.check loaded).code = 0 then "No issues found.\n" else "")) ∧
    (∃ errs, (Command.check loaded).err = String.join errs ∧
      List.Forall₂ (fun err name => ∃ redeclared : List Redeclaration,
        err = String.join (redeclared.map fun d =>
            " WARN glean_index::registry: searchable field redeclared, later declaration wins" ++
              " record_type=" ++ d.recordType ++ " field=" ++ Text.quoted d.name ++ "\n") ++
          match loaded.config.schema.registry name with
          | .ok _ => ""
          | .error e => "error: " ++ e.message ++ "\n") errs loaded.config.schema.names) ∧
    ((Command.check loaded).code = 0 ↔
      ∀ name ∈ loaded.config.schema.names, ∃ r, loaded.config.schema.registry name = .ok r) ∧
    ((Command.check loaded).code = 1 ↔
      ∃ name ∈ loaded.config.schema.names, ∃ e, loaded.config.schema.registry name = .error e) := by
  have hlines : List.Forall₂ (Command.TypeLine.AsFresh loaded.config.schema)
      (Command.typeLines loaded.config.catalog loaded.config.schema.names)
      loaded.config.schema.names :=
    Command.typeLines_asFresh (Catalog.sound_ofSchema loaded.config.schema) _
  obtain ⟨herr, hout, hcode⟩ := Command.check_eq_of_typeLines loaded rfl
  have hbuilt := Command.all_built_iff hlines
  generalize Command.typeLines loaded.config.catalog loaded.config.schema.names = lines at *
  have hzero : (Command.check loaded).code = 0 ↔ lines.all (·.built) = true := by simp [hcode]
  have hone : (Command.check loaded).code = 1 ↔ ¬ lines.all (·.built) = true := by simp [hcode]
  refine ⟨Catalog.answers_of_sound (Catalog.sound_ofSchema s) requests, ?out,
    ⟨_, herr, List.forall₂_map_left_iff.mpr (hlines.imp ?err)⟩, hzero.trans hbuilt, ?failed⟩
  case out =>
    rw [hout, Command.typesReport, Command.map_out_of_asFresh hlines]
    simp only [Command.out_typeLine, hzero]
  case err =>
    rintro line name ⟨-, -, redeclared, hline⟩
    rw [Command.err_typeLine] at hline
    exact ⟨redeclared, hline⟩
  case failed =>
    rw [hone, hbuilt]
    simp only [not_forall, exists_prop, Command.not_exists_ok_iff]

end RecordSearch
