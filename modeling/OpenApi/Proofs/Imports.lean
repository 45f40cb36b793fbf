import OpenApi.Proofs.Groups
import OpenApi.Proofs.ModelNames
import OpenApi.Proofs.ParameterBuckets
import OpenApi.Proofs.PropertyTypes

/-!
# Imports

Generated code for a model or an operation imports the models that it needs. They are looked for in
the properties that it holds, and in each of them at the bottom of its containers. A property has at
most one property inside, so the bottom is the only place where there can be a model, and no import
is missed. An operation looks at the parameters that are kept, and a model also at the names in its
composition.

## Main definitions

* `Property.RefersTo`: a property is a model, or one inside it is.
* `ModelImports`, `OperationImports`: what the imports are.

## Main statements

* `Property.model?_eq_some_iff`: the model at the bottom is the one that a property refers to.
* `importsOf_resolve`: the imports of all models and operations of a resolved document.
-/
namespace OpenApi

open Resolved (Api Model Property)

/-! ## References in properties -/

/-- A property refers to a model when it is that model, or one inside it is, at any depth. -/
def Resolved.Property.RefersTo (property : Property) (name : String) : Prop :=
  ∃ inside ∈ property.nested, inside.type.kind = .model name

theorem Resolved.Property.refersTo_iff {property : Property} {name : String} :
    property.RefersTo name ↔
      property.type.kind = .model name
        ∨ ∃ inside ∈ property.type.inner, inside.type.kind = .model name := by
  rw [RefersTo, Property.nested_eq, List.exists_mem_cons_iff]

/-- **The model at the bottom of a property is the one that it refers to**, and it refers to
no other. -/
theorem Resolved.Property.model?_eq_some_iff {name : String} :
    ∀ {property : Property}, property.model? = some name ↔ property.RefersTo name
  | ⟨names, required, traits, ⟨dataType, baseType, kind, format, isPrimitive⟩⟩ => by
    rw [Property.refersTo_iff, Property.model?_eq]
    cases kind with
    | array items =>
      simp only [PropertyType.model?, PropertyType.inner, reduceCtorEq, false_or]
      exact model?_eq_some_iff
    | map values =>
      simp only [PropertyType.model?, PropertyType.inner, reduceCtorEq, false_or]
      exact model?_eq_some_iff
    | _ => simp [PropertyType.model?, PropertyType.inner]
termination_by structural property => property

/-! ## Models -/

/-- What the imports of a model are, and which members of its union are models. -/
structure ModelImports (naming : Naming) (model : Model) : Prop where
  imports_increasing : model.imports.Pairwise (bytes · < bytes ·)
  /-- The names that the model mentions are imported, its own and those of types that need no model
  apart. -/
  mem_imports : ∀ name, name ∈ model.imports ↔
    name ≠ model.className ∧ TypeTable.isImportFree name = false ∧ naming.isBuiltin name = false
      ∧ ((∃ property ∈ model.properties, property.RefersTo name)
        ∨ name ∈ model.oneOf ∨ name ∈ model.anyOf ∨ name ∈ model.allOf)
  oneOfModels_increasing : model.oneOfModels.Pairwise (bytes · < bytes ·)
  mem_oneOfModels : ∀ name, name ∈ model.oneOfModels ↔
    name ∈ model.oneOf ∧ TypeTable.isImportFree name = false ∧ naming.isBuiltin name = false

namespace Dialect

variable {dialect : Dialect} {name : String}

theorem isPrimitive_eq_false_iff : dialect.isPrimitive name = false ↔
    TypeTable.isImportFree name = false ∧ dialect.naming.isBuiltin name = false := by
  rw [isPrimitive, Bool.or_eq_false_iff]

theorem mem_mentions_iff {model : Model} : name ∈ mentions model ↔
    (∃ property ∈ model.properties, property.RefersTo name)
      ∨ name ∈ model.oneOf ∨ name ∈ model.anyOf ∨ name ∈ model.allOf := by
  have hproperties : mentions model = model.properties.filterMap Property.model?
      ++ model.oneOf ++ model.anyOf ++ model.allOf := by
    unfold mentions Model.properties
    cases model.kind <;> rfl
  simp only [hproperties, List.mem_append, List.mem_filterMap, Property.model?_eq_some_iff,
    or_assoc]

/-- A model whose imports are those that it needs. -/
theorem modelImports_of_eq {model : Model} (himports : model.imports = dialect.modelImports model)
    (hmembers : model.oneOfModels = distinctSorted (model.oneOf.filter (!dialect.isPrimitive ·))) :
    ModelImports dialect.naming model := by
  constructor
  case imports_increasing =>
    rw [himports]
    exact pairwise_bytes_distinctSorted _
  case mem_imports =>
    intro name
    rw [himports, modelImports, mem_distinctSorted, List.mem_filter, mem_mentions_iff,
      Bool.and_eq_true, bne_iff_ne, Bool.not_eq_true', isPrimitive_eq_false_iff, and_comm,
      and_assoc, and_assoc]
  case oneOfModels_increasing =>
    rw [hmembers]
    exact pairwise_bytes_distinctSorted _
  case mem_oneOfModels =>
    intro name
    rw [hmembers, mem_distinctSorted, List.mem_filter, Bool.not_eq_true', isPrimitive_eq_false_iff]

theorem modelImports_model (dialect : Dialect) (document : Document) (name : String)
    (schema : Referable Schema) :
    ModelImports dialect.naming (dialect.model document name schema) := by
  unfold model
  split
  · exact modelImports_of_eq rfl rfl
  · exact modelImports_of_eq rfl rfl

end Dialect

/-! ## Operations -/

/-- What the imports of an operation are. -/
structure OperationImports (operation : Resolved.Operation) : Prop where
  imports_increasing : operation.imports.Pairwise (bytes · < bytes ·)
  /-- No parameter is left that another one replaces. -/
  parameters_distinct : (operation.parameters.map (·.names.identifier)).Nodup
  /-- The models that the parameters and the result refer to are imported, types that need no import
  apart. -/
  mem_imports : ∀ name, name ∈ operation.imports ↔
    TypeTable.isImportFree name = false
      ∧ ((∃ parameter ∈ operation.parameters, parameter.schema.RefersTo name)
        ∨ ∃ result ∈ operation.result, result.RefersTo name)

/-- Another id needs no other imports. -/
theorem OperationImports.rename {operation : Resolved.Operation} (h : OperationImports operation)
    (id : String) : OperationImports (operation.rename id) :=
  ⟨h.imports_increasing, h.parameters_distinct, h.mem_imports⟩

theorem mem_operationImports_iff {operation : Resolved.Operation} {name : String} :
    name ∈ Dialect.operationImports operation ↔
      TypeTable.isImportFree name = false
        ∧ ((∃ parameter ∈ operation.parameters, parameter.schema.RefersTo name)
          ∨ ∃ result ∈ operation.result, result.RefersTo name) := by
  rw [Dialect.operationImports, mem_distinctSorted, List.mem_filter, Bool.not_eq_true', and_comm]
  simp only [List.mem_filterMap, List.mem_append, List.mem_map, Option.mem_toList,
    Option.mem_def, Property.model?_eq_some_iff, or_and_right, exists_or, exists_exists_and_eq_and]

theorem operationImports_operation (dialect : Dialect) (document : Document) (aliases : Dict String)
    (site : OperationSite) : OperationImports (dialect.operation document aliases site) := by
  constructor
  case imports_increasing => exact pairwise_bytes_distinctSorted _
  case parameters_distinct => exact nodup_identifiersOf_distinctParameters _
  case mem_imports => exact fun _ => mem_operationImports_iff

/-- **The imports of a resolved document are the models that are needed**, for each model and for
each operation. -/
theorem importsOf_resolve {document : Document} {options : ResolveOptions} {api : Api}
    (h : document.resolve options = .ok api) :
    (∀ model ∈ api.models, ModelImports options.naming model)
      ∧ ∀ operation ∈ api.operations, OperationImports operation := by
  obtain rfl := Document.resolved_of_resolve h
  constructor
  · intro model hmodel
    obtain ⟨entry, -, rfl⟩ := List.mem_map.1 hmodel
    exact options.dialect.modelImports_model document entry.1 entry.2
  · intro operation hoperation
    obtain ⟨group, hgroup, hmem⟩ := List.mem_flatMap.1 hoperation
    obtain ⟨site, -, heq, -⟩ := exists_site_of_mem_groups hgroup hmem
    rw [heq]
    exact (operationImports_operation options.dialect document options.aliases site).rename _

/-- A list of open records of pets, some of them unions with a text; and an operation with two
parameters of one identifier, of which only the second one is kept. -/
def shelterDocument : Document where
  openapi := "3.0.3"
  info := { title := "shelter", version := "1" }
  components := some
    { schemas := Dict.ofEntries
        [("Shelter", .inline
          { properties :=
              [("rooms", .inline
                { items := some (.inline
                    { additionalProperties :=
                        some (.values (.reference "#/components/schemas/Pet")) }) }),
              ("parent", .reference "#/components/schemas/Shelter")] }),
        ("Pet", .inline
          { oneOf :=
              [.reference "#/components/schemas/Dog", .inline { type := some (.single .string) },
                .reference "#/components/schemas/Cat", .reference "#/components/schemas/Dog"] })] }
  paths := Dict.ofEntries
    [("/shelters",
      { get := some
          { parameters :=
              [.inline { name := "near-by", location := .query
                         schema := some (.reference "#/components/schemas/Pet") },
                .inline { name := "nearBy", location := .query
                          schema := some (.reference "#/components/schemas/Place") }]
            responses := Dict.ofEntries
              [("200", .inline
                { content := Dict.ofEntries
                    [("application/json",
                      { schema := some (.inline
                          { items :=
                              some (.reference "#/components/schemas/Shelter") }) })] })] } })]

theorem importsOf_resolve_shelterDocument :
    shelterDocument.resolve {} = .ok (shelterDocument.resolved {})
      ∧ (∀ model ∈ (shelterDocument.resolved {}).models, ModelImports {} model)
      ∧ (∀ operation ∈ (shelterDocument.resolved {}).operations, OperationImports operation)
      ∧ (shelterDocument.resolved {}).models.map (fun model =>
          (model.className, model.imports, model.oneOfModels)) =
        [("Pet", ["Cat", "Dog"], ["Cat", "Dog"]), ("Shelter", ["Pet"], [])]
      ∧ (shelterDocument.resolved {}).operations.map (·.imports) = [["Place", "Shelter"]] := by
  have hresolved : shelterDocument.resolve {} = .ok (shelterDocument.resolved {}) := rfl
  obtain ⟨hmodels, hoperations⟩ := importsOf_resolve hresolved
  exact ⟨hresolved, hmodels, hoperations, by decide +kernel, by decide +kernel⟩

end OpenApi
