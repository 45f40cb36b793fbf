import Mathlib.Data.List.Perm.Basic
import OpenApi.Proofs.ByteOrder
import OpenApi.Proofs.Declarations
import OpenApi.Proofs.References
import OpenApi.Proofs.Sorting

/-!
# Merged properties

A model takes its properties from several schemas: the body of its component, and the inline
branches of the body's `allOf` that declare properties. These sources may declare a property more
than once, with different schemas, and require it or not. The model has it once, as the first source
declares it and required as that source says; what the later ones say of it counts for nothing.

## Main definitions

* `Schema.sources`: the schemas that give a model its properties, in order.
* `Schema.FirstDeclares`: the first source that declares a property.
* `PropertiesMerged`: what the properties of a model are.

## Main statements

* `mem_vars_iff`: the properties of a model, each with the source that declares it first.
* `propertiesMerged_model`: the properties of a model are the merged ones of its sources.
-/
namespace OpenApi

open Resolved (Model Property)

/-! ## Sources -/

namespace Schema

/-- The names of the properties that a schema itself declares. -/
def propertyNames (schema : Schema) : List String := schema.properties.map Prod.fst

/-- The schemas that give the model of a body its properties: the body, and then its inline branches
that declare properties. -/
def sources (body : Schema) : List Schema :=
  body :: (body.allOf.filterMap Referable.inline?).filter (!·.properties.isEmpty)

/-- Of the sources of a body, `source` is the first that declares a property, and `schema` is what
it declares. -/
def FirstDeclares (body : Schema) (name : String) (source : Schema)
    (schema : Referable Schema) : Prop :=
  ∃ before after, body.sources = before ++ source :: after
    ∧ source.properties.lookup name = some schema ∧ ∀ other ∈ before, name ∉ other.propertyNames

/-- A search of the sources for a property. -/
def firstDeclared? (body : Schema) (name : String) : Option (Schema × Referable Schema) :=
  body.sources.findSome? fun source => (source.properties.lookup name).map (source, ·)

variable {body source : Schema} {name : String} {schema : Referable Schema}

/-- The search finds the first source. -/
theorem firstDeclared?_eq_some_iff :
    body.firstDeclared? name = some (source, schema) ↔ body.FirstDeclares name source schema := by
  simp only [firstDeclared?, List.findSome?_eq_some_iff, Option.map_eq_some_iff, Prod.mk.injEq,
    Option.map_eq_none_iff, Dict.lookup_eq_none_iff]
  constructor
  · rintro ⟨before, found, after, hsources, ⟨_, hlookup, rfl, rfl⟩, hbefore⟩
    exact ⟨before, after, hsources, hlookup, hbefore⟩
  · rintro ⟨before, after, hsources, hlookup, hbefore⟩
    exact ⟨before, source, after, hsources, ⟨schema, hlookup, rfl, rfl⟩, hbefore⟩

/-- What some source declares, one of them declares first. -/
theorem exists_firstDeclares_iff : (∃ source schema, body.FirstDeclares name source schema) ↔
    ∃ source ∈ body.sources, name ∈ source.propertyNames := by
  constructor
  · rintro ⟨source, schema, before, after, hsources, hlookup, _⟩
    refine ⟨source, by simp [hsources], ?_⟩
    by_contra hmissing
    rw [Dict.lookup_eq_none_iff.2 hmissing] at hlookup
    nomatch hlookup
  · rintro ⟨source, hsource, hname⟩
    cases hfound : body.firstDeclared? name with
    | some found => exact ⟨found.1, found.2, firstDeclared?_eq_some_iff.1 hfound⟩
    | none =>
      have hnone := List.findSome?_eq_none_iff.1 hfound source hsource
      exact absurd hname (Dict.lookup_eq_none_iff.1 (Option.map_eq_none_iff.1 hnone))

end Schema

/-! ## Declarations -/

theorem Schema.find?_declarations_eq (schema : Schema) (name : String) :
    schema.declarations.find? (·.name == name) =
      (schema.properties.lookup name).map (⟨name, ·, schema.required.contains name⟩) := by
  have hfind := Dict.find?_fst name schema.properties
  rw [Schema.declarations, List.find?_map, Function.comp_def, hfind, Option.map_map]
  rfl

/-- What a body and its branches declare is what its sources declare. -/
theorem declarations_eq_flatMap (body : Schema) :
    declarations body = body.sources.flatMap Schema.declarations := by
  -- A branch that is no source has nothing to declare.
  have hskip (schemas : List Schema) : schemas.flatMap Schema.declarations =
      (schemas.filter (!·.properties.isEmpty)).flatMap Schema.declarations := by
    induction schemas with
    | nil => rfl
    | cons schema rest ih =>
      cases hempty : schema.properties with
      | nil => simp [hempty, ih, Schema.declarations]
      | cons entry others => simp [hempty, ih]
  rw [declarations, Schema.sources, List.flatMap_cons, ← hskip]

/-- **Of the declarations of a name, the first source's is found.** -/
theorem find?_declarations_eq_map (body : Schema) (name : String) :
    (declarations body).find? (·.name == name) = (body.firstDeclared? name).map fun found =>
      ⟨name, found.2, found.1.required.contains name⟩ := by
  rw [declarations_eq_flatMap, List.find?_flatMap, Schema.firstDeclared?, List.map_findSome?]
  congr 1
  funext source
  rw [Schema.find?_declarations_eq, Function.comp_apply, Option.map_map]
  rfl

/-! ## Models -/

namespace Dialect

variable {dialect : Dialect} {body : Schema} {var : Property}

/-- **The properties of a model**, each resolved from its first declaration. -/
theorem mem_vars_iff : var ∈ dialect.vars body ↔
    ∃ name source schema, body.FirstDeclares name source schema
      ∧ var = dialect.property name (source.required.contains name) schema := by
  simp only [vars, mem_sortOn, List.mem_map, mem_firstDeclarations_iff, find?_declarations_eq_map,
    Option.map_eq_some_iff]
  constructor
  · rintro ⟨declaration, ⟨_, ⟨source, schema⟩, hfound, heq⟩, rfl⟩
    refine ⟨declaration.name, source, schema, Schema.firstDeclared?_eq_some_iff.1 hfound, ?_⟩
    rw [← heq, declared]
  · rintro ⟨name, source, schema, hfirst, rfl⟩
    refine ⟨⟨name, schema, source.required.contains name⟩, ⟨List.not_mem_nil, ?_⟩, rfl⟩
    exact ⟨(source, schema), Schema.firstDeclared?_eq_some_iff.2 hfirst, rfl⟩

theorem mem_base_vars_iff {name : String} : name ∈ (dialect.vars body).map (·.names.base) ↔
    ∃ source schema, body.FirstDeclares name source schema := by
  simp only [List.mem_map, mem_vars_iff]
  constructor
  · rintro ⟨_, ⟨other, source, schema, hfirst, rfl⟩, rfl⟩
    rw [base_property]
    exact ⟨source, schema, hfirst⟩
  · rintro ⟨source, schema, hfirst⟩
    exact ⟨_, ⟨name, source, schema, hfirst, rfl⟩, base_property ..⟩

theorem pairwise_base_vars (dialect : Dialect) (body : Schema) :
    ((dialect.vars body).map (·.names.base)).Pairwise (bytes · < bytes ·) :=
  List.pairwise_map.2 ((pairwise_lt_sortOn (dialect.nodup_base_declared body)).imp bytes_lt_bytes)

end Dialect

/-- The properties of a model are those that the sources of a body declare, merged. -/
structure PropertiesMerged (dialect : Dialect) (body : Schema) (model : Model) : Prop where
  /-- They come in the order of their names, each once. -/
  increasing : (model.vars.map (·.names.base)).Pairwise (bytes · < bytes ·)
  /-- Their names are those of the properties that the sources declare. -/
  names : ∀ name, name ∈ model.vars.map (·.names.base) ↔
    ∃ source ∈ body.sources, name ∈ source.propertyNames
  /-- Each is resolved from its first declaration, and the same source says whether it is
  required. -/
  resolved : ∀ var ∈ model.vars, ∃ source schema, body.FirstDeclares var.names.base source schema
    ∧ var = dialect.property var.names.base (source.required.contains var.names.base) schema
    ∧ (var.required = true ↔ var.names.base ∈ source.required)
  /-- The mandatory names are those of the required ones, in their order. -/
  mandatory : model.mandatory = (model.vars.filter (·.required)).map (·.names.base)
  /-- A name is mandatory when the source that declares it first requires it. -/
  mem_mandatory : ∀ name, name ∈ model.mandatory ↔
    ∃ source schema, body.FirstDeclares name source schema ∧ name ∈ source.required
  /-- The required ones keep their order, and so do the others. -/
  ordered : model.requiredVars.Sublist model.vars ∧ model.optionalVars.Sublist model.vars
  divided : (∀ var ∈ model.requiredVars, var.required = true)
    ∧ ∀ var ∈ model.optionalVars, var.required = false
  /-- The required ones and the others together are all of them. -/
  parted : (model.requiredVars ++ model.optionalVars).Perm model.vars

theorem propertiesMerged_of_vars {dialect : Dialect} {body : Schema} {model : Model}
    (hvars : model.vars = dialect.vars body)
    (hmandatory : model.mandatory = model.requiredVars.map (·.names.base)) :
    PropertiesMerged dialect body model := by
  have hresolved : ∀ var ∈ model.vars, ∃ source schema,
      body.FirstDeclares var.names.base source schema
        ∧ var = dialect.property var.names.base (source.required.contains var.names.base) schema
        ∧ (var.required = true ↔ var.names.base ∈ source.required) := by
    intro var hvar
    rw [hvars] at hvar
    obtain ⟨name, source, schema, hfirst, rfl⟩ := Dialect.mem_vars_iff.1 hvar
    rw [Dialect.base_property]
    exact ⟨source, schema, hfirst, rfl, by rw [Dialect.required_property, List.contains_iff_mem]⟩
  constructor
  case increasing =>
    rw [hvars]
    exact Dialect.pairwise_base_vars dialect body
  case names =>
    intro name
    rw [hvars, Dialect.mem_base_vars_iff, Schema.exists_firstDeclares_iff]
  case resolved => exact hresolved
  case mandatory => exact hmandatory
  case mem_mandatory =>
    intro name
    simp only [hmandatory, Model.requiredVars, List.mem_map, List.mem_filter]
    constructor
    · rintro ⟨var, ⟨hvar, hrequired⟩, rfl⟩
      obtain ⟨source, schema, hfirst, _, hiff⟩ := hresolved var hvar
      exact ⟨source, schema, hfirst, hiff.1 hrequired⟩
    · rintro ⟨source, schema, hfirst, hmem⟩
      have hvar : dialect.property name (source.required.contains name) schema ∈ model.vars := by
        rw [hvars]
        exact Dialect.mem_vars_iff.2 ⟨name, source, schema, hfirst, rfl⟩
      refine ⟨_, ⟨hvar, ?_⟩, Dialect.base_property ..⟩
      rw [Dialect.required_property, List.contains_iff_mem]
      exact hmem
  case ordered => exact ⟨List.filter_sublist, List.filter_sublist⟩
  case divided =>
    constructor
    · intro var hvar
      exact (List.mem_filter.1 hvar).2
    · intro var hvar
      simpa using (List.mem_filter.1 hvar).2
  case parted => exact List.filter_append_perm _ _

/-- **The properties of the model of a component schema** are those that the body it comes to and
the inline branches of this body declare, merged. -/
theorem propertiesMerged_model {document : Document} {name : String} {schema : Referable Schema}
    {body : Schema} (hschema : document.schemas.get? name = some schema)
    (hbody : document.schema schema = .ok body) (dialect : Dialect) :
    dialect.model document name schema ∈ dialect.models document
      ∧ PropertiesMerged dialect body (dialect.model document name schema) := by
  constructor
  · exact List.mem_map.2 ⟨(name, schema), Dict.mem_sorted_iff.2 hschema, rfl⟩
  · rw [Dialect.model, hbody]
    exact propertiesMerged_of_vars rfl rfl

/-- A body with a branch that declares one of its properties again, and does not require it. -/
def taggedSchema : Schema where
  required := ["zeta"]
  properties :=
    [("zeta", .inline { type := some (.single .string) }),
      ("id", .inline { type := some (.single .integer) })]
  allOf :=
    [.inline
      { required := ["alpha"]
        properties :=
          [("alpha", .inline { type := some (.single .string) }),
            ("zeta", .inline { type := some (.single .integer) })] }]

/-- A document in which one component is an alias of another. -/
def taggedDocument : Document where
  openapi := "3.0.3"
  info := { title := "tags", version := "1" }
  components := some
    { schemas := Dict.ofEntries
        [("Label", .reference "#/components/schemas/Tagged"), ("Tagged", .inline taggedSchema)] }

theorem propertiesMerged_model_taggedDocument :
    taggedDocument.schemas.get? "Label" = some (.reference "#/components/schemas/Tagged")
      ∧ taggedDocument.schema (.reference "#/components/schemas/Tagged") = .ok taggedSchema
      ∧ PropertiesMerged {} taggedSchema
          (Dialect.model {} taggedDocument "Label" (.reference "#/components/schemas/Tagged"))
      ∧ (Dialect.vars {} taggedSchema).map (fun var => (var.names.base, var.required)) =
          [("alpha", true), ("id", false), ("zeta", true)] := by
  have hschema : taggedDocument.schemas.get? "Label" =
      some (.reference "#/components/schemas/Tagged") := by rfl
  have hbody : taggedDocument.schema (.reference "#/components/schemas/Tagged") =
      .ok taggedSchema := by
    rw [Document.schema, follow, followFresh_reference]
    exact followFresh.eq_1 ..
  exact ⟨hschema, hbody, (propertiesMerged_model hschema hbody {}).2, by decide +kernel⟩

end OpenApi
