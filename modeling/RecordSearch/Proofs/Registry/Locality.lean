import RecordSearch.Proofs.Registry.SharedCatalog

/-!
The registry of a type depends on the types it reaches, and on nothing else a schema holds.

* `Schema.AgreesFrom` says of two schemas that they define the same, or nothing, under every name
  that is reached from a type;
* `resolve_and_buildFrom_eq`: on two such schemas the runs for the type are one and the same, with
  what they keep and what they note, whether they end in a registry or in an error;
* `registry_insert_of_not_reaches`: a type may be added, replaced or broken where it is not reached;
* `registry_eq_of_agreesFrom`: the answers are the same, also after any other requests.
-/

open Relation

namespace RecordSearch

namespace Schema

/-! ## What a type leads to -/

/-- The targets of the relations that the search declarations of a type name. -/
def targets (s : Schema) (name : String) : List String :=
  match s.get? name with
  | none => []
  | some t => t.declarations.filterMap fun d => (t.relation? d.field).map (·.target)

theorem leads_iff {s : Schema} {u v : String} : s.Leads u v ↔ v ∈ s.targets u := by
  unfold Leads targets
  cases s.get? u with
  | none => simp
  | some t => simp [List.mem_filterMap]

/-- Names that lead only to each other are all that is reached from one of them. -/
theorem mem_of_reaches {s : Schema} {names : List String} {u v : String}
    (hclosed : ∀ w ∈ names, ∀ x ∈ s.targets w, x ∈ names) (hu : u ∈ names)
    (h : s.Reaches u v) : v ∈ names := by
  induction h with
  | refl => exact hu
  | tail _ hlead ih => exact hclosed _ ih _ (leads_iff.mp hlead)

/-! ## Agreement -/

def AgreesFrom (s s' : Schema) (name : String) : Prop :=
  ∀ u, s.Reaches name u → s.get? u = s'.get? u

theorem agreesFrom_insert {s : Schema} {name u : String} (h : ¬ s.Reaches name u)
    (t : RecordType) : s.AgreesFrom (s.insert u t) name := by
  intro v hv
  have hne : v ≠ u := fun heq => h (heq ▸ hv)
  exact (get?_insert_of_ne hne t).symm

end Schema

/-! ## Two runs -/

theorem Schema.Reaches.targets {s : Schema} {root name : String} {t : RecordType}
    (h : s.Reaches root name) (ht : s.get? name = some t) :
    ∀ d ∈ t.declarations, ∀ relation, t.relation? d.field = some relation →
      s.Reaches root relation.target :=
  fun d hd relation hrel => h.tail ⟨t, d, relation, ht, hd, hrel, rfl⟩

/-- The stack and the kept registries do not matter here: they are the same in both runs. -/
theorem resolve_and_buildFrom_eq {s s' : Schema} {root : String} (h : s.AgreesFrom s' root) :
    (∀ stack name p, s.Reaches root name →
      resolve s stack name p = resolve s' stack name p) ∧
    (∀ stack owner t ds r p, (∀ d ∈ ds, ∀ relation, t.relation? d.field = some relation →
        s.Reaches root relation.target) →
      buildFrom s stack owner t ds r p = buildFrom s' stack owner t ds r p) := by
  refine resolve.mutual_induct s _ _ ?unknown ?built ?cyclic ?completed ?failed
    ?nil ?field ?unknownField ?unknownTarget ?relatedFailed ?related
  case unknown =>
    intro stack name p ht hreach
    have ht' : s'.get? name = none := (h name hreach).symm.trans ht
    rw [resolve_of_unknown ht, resolve_of_unknown ht']
  case built =>
    intro stack name p t ht r hb hreach
    have ht' : s'.get? name = some t := (h name hreach).symm.trans ht
    rw [resolve_of_built ht hb, resolve_of_built ht' hb]
  case cyclic =>
    intro stack name p t ht hb hs hreach
    have ht' : s'.get? name = some t := (h name hreach).symm.trans ht
    have hmem : name ∈ stack := List.contains_iff_mem.mp hs
    rw [resolve_of_not_built ht hb, resolve_of_not_built ht' hb, if_pos hmem, if_pos hmem]
  case completed =>
    intro stack name p t ht hb hs r p' _ ih hreach
    have ht' : s'.get? name = some t := (h name hreach).symm.trans ht
    rw [resolve_of_not_built ht hb, resolve_of_not_built ht' hb, ih (hreach.targets ht)]
  case failed =>
    intro stack name p t ht hb hs e p' _ ih hreach
    have ht' : s'.get? name = some t := (h name hreach).symm.trans ht
    rw [resolve_of_not_built ht hb, resolve_of_not_built ht' hb, ih (hreach.targets ht)]
  case nil =>
    intro stack owner t r p _
    rw [buildFrom, buildFrom]
  case field =>
    intro stack owner t r p d ds hrel hfield r' p' hreg ih htargets
    obtain ⟨rfl, rfl⟩ := Prod.mk.inj hreg
    rw [buildFrom_field hrel hfield, buildFrom_field hrel hfield]
    exact ih fun e he => htargets e (List.mem_cons_of_mem d he)
  case unknownField =>
    intro stack owner t r p d ds hrel hfield _
    rw [buildFrom_unknownField hrel hfield, buildFrom_unknownField hrel hfield]
  case unknownTarget =>
    intro stack owner t r p d ds relation hrel hget htargets
    have hsame := h _ (htargets d List.mem_cons_self relation hrel)
    rw [buildFrom_unknownTarget hrel hget, buildFrom_unknownTarget hrel (hsame ▸ hget)]
  case relatedFailed =>
    intro stack owner t r p d ds relation hrel hget e p' heq ih htargets
    have hreach := htargets d List.mem_cons_self relation hrel
    rw [buildFrom_relation hrel hget, buildFrom_relation hrel (h _ hreach ▸ hget), ← ih hreach,
      heq]
  case related =>
    intro stack owner t r p d ds relation hrel hget inner p' heq r' p'' hreg ih ihrest htargets
    have hreach := htargets d List.mem_cons_self relation hrel
    obtain ⟨rfl, rfl⟩ := Prod.mk.inj hreg
    rw [Progress.registerAll_fst] at ihrest
    rw [buildFrom_relation hrel hget, buildFrom_relation hrel (h _ hreach ▸ hget), ← ih hreach,
      heq]
    exact ihrest fun e he => htargets e (List.mem_cons_of_mem d he)

theorem Schema.AgreesFrom.registry_eq {s s' : Schema} {name : String}
    (h : s.AgreesFrom s' name) : s.registry name = s'.registry name := by
  have hrun := (resolve_and_buildFrom_eq h).1 [] name .empty .refl
  show (resolve s [] name .empty).1 = (resolve s' [] name .empty).1
  rw [hrun]

/-- A type that is not reached may be defined, replaced or broken. -/
theorem registry_insert_of_not_reaches {s : Schema} {name u : String} (h : ¬ s.Reaches name u)
    (t : RecordType) : (s.insert u t).registry name = s.registry name :=
  (Schema.agreesFrom_insert h t).registry_eq.symm

/-! ## After other requests -/

namespace Catalog

/-- The catalog after requests that are made one after the other. -/
def after (c : Catalog) (requests : List Request) : Catalog :=
  requests.foldl (fun c q => (c.answer q).2) c

theorem sound_and_schema_after {c : Catalog} (h : c.Sound) (requests : List Request) :
    (c.after requests).Sound ∧ (c.after requests).schema = c.schema := by
  induction requests generalizing c with
  | nil => exact ⟨h, rfl⟩
  | cons q qs ih =>
    obtain ⟨hsound, hschema⟩ := ih (sound_answer h q)
    exact ⟨hsound, hschema.trans (schema_answer h q)⟩

theorem registry_after (s : Schema) (requests : List Request) (name : String) :
    (((ofSchema s).after requests).registry name).1 = s.registry name := by
  obtain ⟨hsound, hschema⟩ := sound_and_schema_after (sound_ofSchema s) requests
  rw [registry_eq_fresh hsound, hschema]
  rfl

end Catalog

/-- If two schemas say the same of all that a type reaches, its registry is the same over both, in
fresh catalogs and in catalogs that have answered any other requests. -/
theorem registry_eq_of_agreesFrom {s s' : Schema} {name : String} (h : s.AgreesFrom s' name) :
    s.registry name = s'.registry name ∧
      ∀ before before' : List Catalog.Request,
        (((Catalog.ofSchema s).after before).registry name).1 =
          (((Catalog.ofSchema s').after before').registry name).1 := by
  refine ⟨h.registry_eq, fun before before' => ?_⟩
  rw [Catalog.registry_after, Catalog.registry_after, h.registry_eq]

/-- Pages are tagged, and tags are owned by users, of whom nothing is said. -/
def pageSchema : Schema := Schema.empty
  |>.insert "page" (.ofParts ["title"] [("tags", ⟨"tag", .many⟩)]
      [⟨"title", .empty⟩, ⟨"tags", .empty⟩])
  |>.insert "tag" (.ofParts ["name"] [("owner", ⟨"user", .one⟩)]
      [⟨"name", .empty⟩, ⟨"owner", .empty⟩])

/-- A type that searches itself, which no page leads to. -/
def tangledPageSchema : Schema := pageSchema.insert "folder"
  (.ofParts [] [("parent", ⟨"folder", .one⟩)] [⟨"parent", .empty⟩, ⟨"size", .empty⟩])

theorem registry_tangledPageSchema :
    pageSchema.AgreesFrom tangledPageSchema "page" ∧
    tangledPageSchema.registry "folder" = .error (.cyclic ["folder", "folder"]) ∧
    tangledPageSchema.registry "page" = .error (.unknownTarget "tag" "owner" "user") := by
  have hagrees : pageSchema.AgreesFrom tangledPageSchema "page" := by
    refine Schema.agreesFrom_insert (fun hreach => ?_) _
    have hmem : "folder" ∈ ["page", "tag", "user"] :=
      Schema.mem_of_reaches (by decide +kernel) (by decide) hreach
    exact absurd hmem (by decide)
  have hpage : pageSchema.registry "page" = .error (.unknownTarget "tag" "owner" "user") := by cbv
  refine ⟨hagrees, by cbv, ?_⟩
  rw [← (registry_eq_of_agreesFrom hagrees).1, hpage]

end RecordSearch
