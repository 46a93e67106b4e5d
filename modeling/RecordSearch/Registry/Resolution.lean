import RecordSearch.Registry.Basic

/-!
Building the registries of a schema on demand. The registry of a type needs those of the types its
searched relations lead to. A registry that is complete is kept, and used again whichever type asks
for it next; a failure is not kept.

`resolve` goes down from a type along its declarations in order. `stack` lists the types that are
being built, the outermost first; since no type is on it twice, `resolve` ends.
-/

namespace RecordSearch

inductive SchemaError where
  | unknownType (name : String)
  /-- A declaration names neither a field nor a relation. -/
  | unknownField (owner field : String)
  | unknownTarget (owner field target : String)
  /-- The types along the cycle; the last is the first again. -/
  | cyclic (path : List String)
  deriving DecidableEq, Repr

def SchemaError.message : SchemaError → String
  | unknownType name => "unknown record type: " ++ name
  | unknownField owner field =>
    owner ++ ": cannot search on '" ++ field ++ "': not a field or relation"
  | unknownTarget owner field target =>
    owner ++ "." ++ field ++ ": related type '" ++ target ++ "' is not defined"
  | cyclic path => "cyclic searchable relations: " ++ " -> ".intercalate path

/-- A descriptor took the place of another of its name. -/
structure Redeclaration where
  recordType : String
  name : String
  deriving DecidableEq, Repr

/-- The complete registries, and the redeclarations met so far, the last first. -/
structure Progress where
  built : List (String × FieldRegistry)
  redeclared : List Redeclaration
  deriving DecidableEq, Repr

namespace Progress

def empty : Progress := ⟨[], []⟩

def complete (p : Progress) (name : String) (r : FieldRegistry) : Progress :=
  { p with built := (name, r) :: p.built }

/-- Registers a descriptor and notes if it takes the place of another. -/
def register (p : Progress) (r : FieldRegistry) (d : FieldDescriptor) : FieldRegistry × Progress :=
  (r.insert d,
    if r.contains d.name then { p with redeclared := ⟨r.recordType, d.name⟩ :: p.redeclared }
    else p)

def registerAll (p : Progress) (r : FieldRegistry) :
    List FieldDescriptor → FieldRegistry × Progress
  | [] => (r, p)
  | d :: ds =>
    let (r, p) := p.register r d
    p.registerAll r ds

end Progress

/-- The fields of a related type as the owner of the relation exposes them. -/
def exposedThrough (owner : String) (d : Declaration) (inner : FieldRegistry) :
    List FieldDescriptor :=
  (inner.fields.filter fun f => d.options.exposes f.name).map (FieldDescriptor.through owner d)

/-! ## Resolution -/

/-- The number of types that are not on the stack. -/
def unvisited (schema : Schema) (stack : List String) : Nat :=
  (schema.names.filter (!stack.contains ·)).length

theorem unvisited_push_lt {schema : Schema} {stack : List String} {name : String} {t : RecordType}
    (hget : schema.get? name = some t) (hstack : ¬ stack.contains name) :
    unvisited schema (stack ++ [name]) < unvisited schema stack := by
  have hmem : name ∈ schema.names.filter (!stack.contains ·) :=
    List.mem_filter.mpr ⟨Schema.mem_names_of_get? hget, by simpa using hstack⟩
  have hsub : schema.names.filter (!(stack ++ [name]).contains ·) =
      (schema.names.filter (!stack.contains ·)).filter (· ≠ name) := by
    rw [List.filter_filter]
    congr 1
    funext x
    grind
  unfold unvisited
  rw [hsub]
  exact List.length_filter_lt_length_iff_exists.mpr ⟨name, hmem, by simp⟩

/-- The part of the stack from `name` on, closed by `name`. -/
def cycleAt (name : String) (stack : List String) : List String :=
  stack.dropWhile (· ≠ name) ++ [name]

mutual

def resolve (schema : Schema) (stack : List String) (name : String) (p : Progress) :
    Except SchemaError FieldRegistry × Progress :=
  match _ht : schema.get? name with
  | none => (.error (.unknownType name), p)
  | some t =>
    match p.built.lookup name with
    | some r => (.ok r, p)
    | none =>
      if _hs : stack.contains name then (.error (.cyclic (cycleAt name stack)), p)
      else
        match buildFrom schema (stack ++ [name]) name t t.declarations (.empty name) p with
        | (.ok r, p) => (.ok r, p.complete name r)
        | (.error e, p) => (.error e, p)
termination_by (unvisited schema stack, 0)
decreasing_by
  exact Prod.Lex.left _ _ (unvisited_push_lt _ht _hs)

/-- Registers the fields of `declarations`, all of them of type `t` named `owner`. A relation
counts before a field of the same name. -/
def buildFrom (schema : Schema) (stack : List String) (owner : String) (t : RecordType)
    (declarations : List Declaration) (r : FieldRegistry) (p : Progress) :
    Except SchemaError FieldRegistry × Progress :=
  match declarations with
  | [] => (.ok r, p)
  | d :: ds =>
    match t.relation? d.field with
    | none =>
      if t.hasField d.field then
        let (r, p) := p.register r (.direct owner d)
        buildFrom schema stack owner t ds r p
      else (.error (.unknownField owner d.field), p)
    | some relation =>
      if (schema.get? relation.target).isNone then
        (.error (.unknownTarget owner d.field relation.target), p)
      else
        match resolve schema stack relation.target p with
        | (.error e, p) => (.error e, p)
        | (.ok inner, p) =>
          let (r, p) := p.registerAll r (exposedThrough owner d inner)
          buildFrom schema stack owner t ds r p
termination_by (unvisited schema stack, declarations.length + 1)

end

/-! ## Catalogs -/

/-- The registries of a schema, each built when it is first asked for. -/
structure Catalog where
  schema : Schema
  progress : Progress
  deriving DecidableEq, Repr

namespace Catalog

def ofSchema (schema : Schema) : Catalog := ⟨schema, .empty⟩

def registry (c : Catalog) (name : String) : Except SchemaError FieldRegistry × Catalog :=
  let (answer, progress) := resolve c.schema [] name c.progress
  (answer, { c with progress })

/-- The first error among the registries of the names, in their order. -/
def validateAll (c : Catalog) : List String → Except SchemaError Unit × Catalog
  | [] => (.ok (), c)
  | name :: names =>
    match c.registry name with
    | (.error e, c) => (.error e, c)
    | (.ok _, c) => c.validateAll names

def validate (c : Catalog) : Except SchemaError Unit × Catalog := c.validateAll c.schema.names

/-- The redeclarations met so far, in order. -/
def redeclarations (c : Catalog) : List Redeclaration := c.progress.redeclared.reverse

end Catalog

/-- The registry of a type, built for it alone. -/
def Schema.registry (s : Schema) (name : String) : Except SchemaError FieldRegistry :=
  ((Catalog.ofSchema s).registry name).1

end RecordSearch
