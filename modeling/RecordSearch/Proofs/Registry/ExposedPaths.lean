import RecordSearch.Proofs.Registry.Resolution

/-!
The fields of a type as one flat list of paths: sequences of declarations, all of relations but the
last, where each relation lets the name of what follows it through.

* `Schema.exposedPaths` lists the paths depth-first in the order of the declarations
  (`exposedPaths_eq`), and these are all of them (`mem_exposedPaths_iff`);
* registering the descriptors of this list one after the other gives the registry of the type
  (`Builds.eq_insertAll`), although each related type overwrites in a registry of its own first.
-/

namespace RecordSearch

open RecordSearch.Inflection

structure FieldPath where
  /-- The declarations of the relations, the outermost first. -/
  hops : List Declaration
  leaf : Declaration
  deriving DecidableEq, Repr

namespace FieldPath

def declarations (p : FieldPath) : List Declaration := p.hops ++ [p.leaf]

/-- What a relation puts in front of a name. -/
def segment (d : Declaration) : Option String :=
  if d.options.skipPart = some true then none
  else some (d.options.aliasName.getD (singularize d.field))

def segments (p : FieldPath) : List String := p.hops.filterMap segment

def leafName (p : FieldPath) : String := p.leaf.options.aliasName.getD (normalize p.leaf.field)

def name (p : FieldPath) : String := "_".intercalate (p.segments ++ [p.leafName])

def lead (p : FieldPath) : Option String :=
  if p.segments = [] then none else some ("_".intercalate p.segments)

def source (p : FieldPath) : String := ".".intercalate (p.declarations.map (·.field))

/-- What the outermost declaration that sets it says. -/
def keepPunctuation (p : FieldPath) : Option Bool :=
  p.declarations.findSome? (·.options.keepPunctuation)

def descriptor (owner : String) (p : FieldPath) : FieldDescriptor where
  owner
  name := p.name
  lead := p.lead
  baseName := p.leaf.options.aliasName.getD p.leaf.field
  relations := p.hops.map (·.field)
  field := p.leaf.field
  options := p.hops.foldr (fun d o => d.options.mergedOver o) p.leaf.options

/-- The path as the owner of the relation sees it. -/
def through (d : Declaration) (p : FieldPath) : FieldPath := { p with hops := d :: p.hops }

/-- The paths that start with a declaration of `t`, when `related` gives those of other types. -/
def startingWith (related : String → List FieldPath) (t : RecordType) (d : Declaration) :
    List FieldPath :=
  match t.relation? d.field with
  | some relation =>
    ((related relation.target).filter fun p => d.options.exposes p.name).map (through d)
  | none => if t.hasField d.field then [⟨[], d⟩] else []

end FieldPath

namespace Schema

/-- The exposed paths of at most the given number of declarations. -/
def pathsWithin (s : Schema) : Nat → String → List FieldPath
  | 0, _ => []
  | n + 1, name =>
    match s.get? name with
    | some t => t.declarations.flatMap (FieldPath.startingWith (s.pathsWithin n) t)
    | none => []

/-- A path that comes to no type twice has at most one declaration for each. -/
def exposedPaths (s : Schema) (name : String) : List FieldPath :=
  s.pathsWithin s.types.length name

end Schema

inductive Exposed (s : Schema) : String → FieldPath → Prop
  | field {name t d} : s.get? name = some t → d ∈ t.declarations → t.relation? d.field = none →
      t.hasField d.field = true → Exposed s name ⟨[], d⟩
  | relation {name t d p} {relation : Relation} : s.get? name = some t → d ∈ t.declarations →
      t.relation? d.field = some relation → Exposed s relation.target p →
      d.options.exposes p.name = true → Exposed s name (p.through d)

/-! ## Descriptors of paths -/

namespace FieldPath

theorem part_eq_segment (d : Declaration) : FieldDescriptor.part d = segment d := by
  rw [FieldDescriptor.part, segment, SearchOptions.skipsPart]
  cases h : d.options.skipPart with
  | none => simp
  | some b => cases b <;> simp

theorem name_through (d : Declaration) (p : FieldPath) :
    (p.through d).name = FieldDescriptor.joinParts (FieldDescriptor.part d) p.name := by
  rw [part_eq_segment, name, segments, through, List.filterMap_cons]
  cases segment d with
  | none => rfl
  | some x =>
    exact String.intercalate_cons_of_ne_nil (List.append_ne_nil_of_right_ne_nil _ (by simp))

theorem lead_through (d : Declaration) (p : FieldPath) :
    (p.through d).lead =
      match p.lead with
      | some deeper => some (FieldDescriptor.joinParts (FieldDescriptor.part d) deeper)
      | none => FieldDescriptor.part d := by
  rw [part_eq_segment, lead, lead, segments, through, List.filterMap_cons]
  by_cases hp : p.segments = []
  · rw [segments] at hp
    cases segment d <;> simp [segments, hp]
  · rw [if_neg hp]
    rw [segments] at hp
    cases segment d with
    | none => simp [segments, hp, FieldDescriptor.joinParts]
    | some x =>
      simp [segments, FieldDescriptor.joinParts, String.intercalate_cons_of_ne_nil hp]

theorem descriptor_through (owner target : String) (d : Declaration) (p : FieldPath) :
    (p.through d).descriptor owner = FieldDescriptor.through owner d (p.descriptor target) := by
  rw [descriptor, FieldDescriptor.through, name_through, lead_through]
  rfl

theorem descriptor_leaf (owner : String) (d : Declaration) :
    descriptor owner ⟨[], d⟩ = FieldDescriptor.direct owner d := by
  simp [descriptor, FieldDescriptor.direct, name, lead, segments, leafName]

theorem source_descriptor (owner : String) (p : FieldPath) :
    (p.descriptor owner).source = p.source := by
  simp [FieldDescriptor.source, FieldDescriptor.path, descriptor, source, declarations]

theorem keepPunctuation_descriptor (owner : String) (p : FieldPath) :
    (p.descriptor owner).options.keepPunctuation = p.keepPunctuation := by
  obtain ⟨hops, leaf⟩ := p
  induction hops with
  | nil => simp [descriptor, keepPunctuation, declarations]
  | cons d hops ih =>
    rw [descriptor, keepPunctuation, declarations] at ih ⊢
    rw [List.foldr_cons, List.cons_append, List.findSome?_cons, SearchOptions.mergedOver]
    dsimp only at ih ⊢
    rw [ih]
    cases d.options.keepPunctuation <;> rfl

end FieldPath

/-! ## The list of paths -/

theorem FieldPath.startingWith_congr {f g : String → List FieldPath} {t : RecordType}
    {d : Declaration}
    (h : ∀ relation, t.relation? d.field = some relation → f relation.target = g relation.target) :
    startingWith f t d = startingWith g t d := by
  rw [startingWith, startingWith]
  cases hrel : t.relation? d.field with
  | none => rfl
  | some relation =>
    dsimp only
    rw [h relation hrel]

theorem FieldPath.mem_startingWith {f : String → List FieldPath} {t : RecordType} {d : Declaration}
    {p : FieldPath} :
    p ∈ startingWith f t d ↔
      (t.relation? d.field = none ∧ t.hasField d.field = true ∧ p = ⟨[], d⟩) ∨
      ∃ relation q, t.relation? d.field = some relation ∧ q ∈ f relation.target ∧
        d.options.exposes q.name = true ∧ p = q.through d := by
  rw [startingWith]
  cases t.relation? d.field with
  | none => by_cases hfield : t.hasField d.field = true <;> simp [hfield]
  | some relation =>
    simp only [List.mem_map, List.mem_filter, reduceCtorEq, false_and, false_or]
    constructor
    · rintro ⟨q, ⟨hq, hexp⟩, rfl⟩
      exact ⟨relation, q, rfl, hq, hexp, rfl⟩
    · rintro ⟨_, q, ⟨rfl⟩, hq, hexp, rfl⟩
      exact ⟨q, ⟨hq, hexp⟩, rfl⟩

section Paths

variable {s : Schema} {name : String} {t : RecordType} {r : FieldRegistry} {p : FieldPath}

/-- Going down from a type that builds, the types on the stack are all different, so as many
declarations are enough as there are types left. -/
theorem pathsWithin_congr {stack : List String} {n m : Nat} (hr : Builds s name r)
    (htrail : Trail s stack name) (hn : unvisited s stack ≤ n) (hm : unvisited s stack ≤ m) :
    s.pathsWithin n name = s.pathsWithin m name := by
  induction n generalizing m stack name r with
  | zero =>
    have ⟨t, ht, _⟩ := hr
    have hlt := unvisited_push_lt ht (by simpa using hr.not_mem_of_trail htrail)
    omega
  | succ n ih =>
    have ⟨t, ht, _⟩ := hr
    have hnot := hr.not_mem_of_trail htrail
    have hlt := unvisited_push_lt ht (by simpa using hnot)
    obtain ⟨k, rfl⟩ : ∃ k, m = k + 1 := ⟨m - 1, by omega⟩
    rw [Schema.pathsWithin, Schema.pathsWithin, ht]
    refine List.flatMap_congr fun d hd => FieldPath.startingWith_congr fun relation hrel => ?_
    have hlead : s.Leads name relation.target := ⟨t, d, relation, ht, hd, hrel, rfl⟩
    obtain ⟨_, hinner⟩ := hr.of_leads hlead
    exact ih hinner (htrail.push hnot hlead) (by omega) (by omega)

theorem unvisited_nil_le (s : Schema) : unvisited s [] ≤ s.types.length := by
  rw [unvisited]
  exact (List.length_filter_le _ _).trans (by simp [Schema.names])

theorem exposedPaths_eq (hr : Builds s name r) (ht : s.get? name = some t) :
    s.exposedPaths name = t.declarations.flatMap (FieldPath.startingWith s.exposedPaths t) := by
  have hlt : unvisited s ([] ++ [name]) < unvisited s [] := unvisited_push_lt ht (by simp)
  have hle := unvisited_nil_le s
  obtain ⟨k, hk⟩ : ∃ k, s.types.length = k + 1 := ⟨s.types.length - 1, by omega⟩
  rw [Schema.exposedPaths, hk, Schema.pathsWithin, ht]
  refine List.flatMap_congr fun d hd => FieldPath.startingWith_congr fun relation hrel => ?_
  have hlead : s.Leads name relation.target := ⟨t, d, relation, ht, hd, hrel, rfl⟩
  obtain ⟨_, hinner⟩ := hr.of_leads hlead
  have htrail : Trail s [name] relation.target := (Trail.nil s name).push (by simp) hlead
  rw [List.nil_append] at hlt
  exact pathsWithin_congr hinner htrail (by omega) (by omega)

theorem exposed_of_mem_pathsWithin {n : Nat} (h : p ∈ s.pathsWithin n name) : Exposed s name p := by
  induction n generalizing name p with
  | zero => cases h
  | succ n ih =>
    rw [Schema.pathsWithin] at h
    cases ht : s.get? name with
    | none => simp [ht] at h
    | some t =>
      rw [ht] at h
      obtain ⟨d, hd, hp⟩ := List.mem_flatMap.mp h
      rcases FieldPath.mem_startingWith.mp hp with ⟨hrel, hfield, rfl⟩ | ⟨relation, q, hrel, hq, hexp, rfl⟩
      · exact .field ht hd hrel hfield
      · exact .relation ht hd hrel (ih hq) hexp

theorem mem_exposedPaths_of_exposed (hr : Builds s name r) (h : Exposed s name p) :
    p ∈ s.exposedPaths name := by
  induction h generalizing r with
  | field ht hd hrel hfield =>
    rw [exposedPaths_eq hr ht]
    exact List.mem_flatMap.mpr
      ⟨_, hd, FieldPath.mem_startingWith.mpr (.inl ⟨hrel, hfield, rfl⟩)⟩
  | relation ht hd hrel _ hexp ih =>
    rw [exposedPaths_eq hr ht]
    obtain ⟨_, hinner⟩ := hr.of_leads ⟨_, _, _, ht, hd, hrel, rfl⟩
    exact List.mem_flatMap.mpr
      ⟨_, hd, FieldPath.mem_startingWith.mpr (.inr ⟨_, _, hrel, ih hinner, hexp, rfl⟩)⟩

theorem mem_exposedPaths_iff (hr : Builds s name r) :
    p ∈ s.exposedPaths name ↔ Exposed s name p :=
  ⟨exposed_of_mem_pathsWithin, mem_exposedPaths_of_exposed hr⟩

end Paths

/-! ## The registry of a type -/

theorem name_through_eq_iff (owner : String) (d : Declaration) (a b : FieldDescriptor) :
    (FieldDescriptor.through owner d a).name = (FieldDescriptor.through owner d b).name ↔
      a.name = b.name := by
  show FieldDescriptor.joinParts _ a.name = FieldDescriptor.joinParts _ b.name ↔ _
  cases FieldDescriptor.part d with
  | none => rfl
  | some x => simp [FieldDescriptor.joinParts]

/-- What a relation exposes of a registry that was filled from the empty one. -/
theorem exposedThrough_insertAll (owner target : String) (d : Declaration)
    (paths : List FieldPath) :
    exposedThrough owner d
        ((FieldRegistry.empty target).insertAll (paths.map (FieldPath.descriptor target))) =
      FieldRegistry.putAll [] (((paths.filter fun p => d.options.exposes p.name).map
        (FieldPath.through d)).map (FieldPath.descriptor owner)) := by
  rw [exposedThrough, FieldRegistry.insertAll_eq, FieldRegistry.filter_putAll,
    FieldRegistry.map_putAll (name_through_eq_iff owner d), List.filter_map, List.map_map,
    List.map_map]
  congr 2
  funext p
  exact (FieldPath.descriptor_through owner target d p).symm

theorem insertAll_putAll_nil (r : FieldRegistry) (ds : List FieldDescriptor) :
    r.insertAll (FieldRegistry.putAll [] ds) = r.insertAll ds := by
  have hnil : (([] : List FieldDescriptor).map (·.name)).Nodup := List.nodup_nil
  rw [FieldRegistry.insertAll_eq, FieldRegistry.insertAll_eq,
    FieldRegistry.putAll_putAll r.fields hnil]
  rfl

theorem Registers.eq_insertAll {s : Schema} {owner : String} {t : RecordType}
    {ds : List Declaration} {r r' : FieldRegistry} (h : Registers s owner t ds r r') :
    r' = r.insertAll ((ds.flatMap (FieldPath.startingWith s.exposedPaths t)).map
      (FieldPath.descriptor owner)) := by
  induction h with
  | nil => rfl
  | field hrel hfield _ ih =>
    rw [ih, List.flatMap_cons, List.map_append, FieldRegistry.insertAll_append]
    simp [FieldPath.startingWith, hrel, hfield, FieldPath.descriptor_leaf, FieldRegistry.insertAll]
  | @relation owner t d ds r r' relation u inner hrel hget hinner _ ihinner ih =>
    have hbuilds : Builds s relation.target inner := ⟨u, hget, hinner⟩
    rw [← exposedPaths_eq hbuilds hget] at ihinner
    rw [ih, ihinner, exposedThrough_insertAll, insertAll_putAll_nil, List.flatMap_cons,
      List.map_append, FieldRegistry.insertAll_append]
    simp only [FieldPath.startingWith, hrel]

theorem Builds.eq_insertAll {s : Schema} {name : String} {r : FieldRegistry}
    (h : Builds s name r) :
    r = (FieldRegistry.empty name).insertAll
      ((s.exposedPaths name).map (FieldPath.descriptor name)) := by
  have ⟨t, ht, hr⟩ := h
  rw [exposedPaths_eq h ht]
  exact hr.eq_insertAll

/-- The names of a registry are those of the exposed paths, each once, in the order of first
occurrence; under each name stands what the last path of that name describes. The paths are listed
depth-first, in the order of the declarations. -/
theorem registry_eq_exposedPaths {s : Schema} {t : String} {r : FieldRegistry}
    (h : s.registry t = .ok r) :
    (∀ p, p ∈ s.exposedPaths t ↔ Exposed s t p) ∧
    (∀ u ty, s.Reaches t u → s.get? u = some ty →
      s.exposedPaths u = ty.declarations.flatMap (FieldPath.startingWith s.exposedPaths ty)) ∧
    r.names = ((s.exposedPaths t).map FieldPath.name).eraseDups ∧
    (∀ n, r.get? n =
      ((s.exposedPaths t).filter (·.name = n)).getLast?.map (FieldPath.descriptor t)) ∧
    ∀ p : FieldPath, (p.descriptor t).name = p.name ∧ (p.descriptor t).source = p.source ∧
      (p.descriptor t).lead = p.lead ∧
      (p.descriptor t).options.keepPunctuation = p.keepPunctuation := by
  have hr := registry_eq_ok_iff.mp h
  refine ⟨fun p => mem_exposedPaths_iff hr, ?order, ?names, ?last, fun p => ⟨rfl,
    p.source_descriptor t, rfl, p.keepPunctuation_descriptor t⟩⟩
  case order =>
    intro u ty hu hty
    obtain ⟨_, hbuilds⟩ := hr.of_reaches hu
    exact exposedPaths_eq hbuilds hty
  case names =>
    rw [hr.eq_insertAll, FieldRegistry.names_insertAll_empty, List.map_map]
    rfl
  case last =>
    intro n
    rw [hr.eq_insertAll, FieldRegistry.get?_insertAll_empty, List.filter_map, List.getLast?_map]
    rfl

/-- The name of an agent is left out of what a person calls its fields, and so stands under the name
of the actor. -/
def castSchema : Schema := Schema.empty
  |>.insert "agent" (.ofParts ["email", "name"] [] [⟨"name", .empty⟩, ⟨"email", .empty⟩])
  |>.insert "person" (.ofParts ["born", "name"] [("agents", ⟨"agent", .many⟩)]
      [⟨"name", .empty⟩,
        ⟨"agents", { SearchOptions.empty with skipPart := some true, except := ["email"] }⟩,
        ⟨"born", .empty⟩])
  |>.insert "movie" (.ofParts ["titles"] [("actors", ⟨"person", .many⟩)]
      [⟨"titles", .empty⟩,
        ⟨"actors", { SearchOptions.empty with except := ["born"], keepPunctuation := some true }⟩])

theorem get?_castSchema : ∃ r, castSchema.registry "movie" = .ok r ∧
    r.names = ["title", "actor_name"] ∧
    (r.get? "actor_name").map (·.source) = some "actors.agents.name" := by
  have hok : (castSchema.registry "movie").isOk = true := by cbv
  obtain ⟨r, hr⟩ : ∃ r, castSchema.registry "movie" = .ok r := by
    cases h : castSchema.registry "movie" with
    | ok r => exact ⟨r, rfl⟩
    | error e => rw [h] at hok; cases hok
  obtain ⟨-, -, hnames, hlast, -⟩ := registry_eq_exposedPaths hr
  refine ⟨r, hr, ?_, ?_⟩
  · rw [hnames]
    decide +kernel
  · rw [hlast]
    decide +kernel

end RecordSearch
