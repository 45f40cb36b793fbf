import OpenApi.Resolution.Property
import OpenApi.Resolved.Model

/-!
# Resolving models

Each component schema becomes one model. A model has the properties of its schema and of the inline
branches of `allOf`; a name that comes again keeps its first declaration. Other schemas are referred
to by their class names and never expanded.

## Main definitions

* `Dialect.model`: the model of a component schema.
* `Declaration`, `declarations`: the properties that a schema and its branches declare.
* `Dialect.models`: the models of a document, by schema name.
-/
namespace OpenApi

open Resolved (DiscriminatorMapping MappedModel Model ModelKind Property)

/-! ## Declared properties -/

/-- A property as a schema declares it. -/
structure Declaration where
  name : String
  schema : Referable Schema
  required : Bool

/-- The properties that a schema itself declares. -/
def Schema.declarations (schema : Schema) : List Declaration :=
  schema.properties.map fun entry => ⟨entry.1, entry.2, schema.required.contains entry.1⟩

/-- The properties that a schema and then its inline branches declare. -/
def declarations (body : Schema) : List Declaration :=
  body.declarations ++ (body.allOf.filterMap Referable.inline?).flatMap Schema.declarations

/-- The first declaration of each name that is not among those seen. -/
def firstDeclarations : (seen : List String) → List Declaration → List Declaration
  | _, [] => []
  | seen, declaration :: rest =>
    if seen.contains declaration.name then firstDeclarations seen rest
    else declaration :: firstDeclarations (declaration.name :: seen) rest

namespace Dialect

variable (dialect : Dialect)

/-- A declared property in use. -/
def declared (declaration : Declaration) : Property :=
  dialect.property declaration.name declaration.required declaration.schema

/-- The properties of a model, by name. -/
def vars (body : Schema) : List Property :=
  sortOn (·.names.base) ((firstDeclarations [] (declarations body)).map dialect.declared)

/-- The name under which properties that are not listed are resolved. -/
def additionalName : String := "additionalProperties"

/-- The values of the properties that are not listed. -/
def additional (body : Schema) : Option Property :=
  match body.additionalProperties with
  | some (.values schema) => some (dialect.property additionalName false schema)
  | some (.allowed true) => some (dialect.anyProperty additionalName false)
  | some (.allowed false) | none => none

/-! ## Composition -/

/-- The name of a member of a union. -/
def memberName : Referable Schema → String
  | .reference path => dialect.referenceModel path
  | .inline schema => dialect.typeDeclaration schema

/-- Whether a name needs no model. -/
def isPrimitive (name : String) : Bool :=
  TypeTable.isImportFree name || dialect.naming.isBuiltin name

/-- The models that the referenced branches name. -/
def branchModels (body : Schema) : List String :=
  (body.allOf.filterMap Referable.path?).map dialect.referenceModel

/-- The selection that the members of a union give. -/
def inferredMapping (body : Schema) : DiscriminatorMapping :=
  let members := if body.oneOf.isEmpty then body.anyOf else body.oneOf
  let entries := (members.filterMap Referable.path?).map fun path =>
    { value := referenceTail path, model := dialect.referenceModel path : MappedModel }
  if entries.isEmpty then .absent else .inferred entries

/-- The discriminator of a model: the selection it lists, or the one that its members give. -/
def discriminator (body : Schema) : Option Resolved.Discriminator :=
  body.discriminator.map fun d =>
    { propertyName := d.propertyName
      mapping :=
        if d.mapping.isEmpty then dialect.inferredMapping body
        else .explicit (d.mapping.entries.map fun entry =>
          { value := entry.1, model := dialect.referenceModel entry.2 }) }

/-! ## Kind -/

/-- The name under which the items of a list model are resolved. -/
def itemsName : String := "items"

/-- The items of a schema that is a list. -/
def modelItems (body : Schema) : Property :=
  match body.items with
  | some schema => dialect.property itemsName false schema
  | none => dialect.anyProperty itemsName false

/-- The kind of a model and the text of its type, given whether it has any property. -/
def modelKind (className : String) (hasMembers : Bool) (body : Schema) : ModelKind × String :=
  let primary := body.primaryType
  let scalar := primary.bind SchemaType.scalar?
  if !body.enumValues.isEmpty && (primary.isNone || scalar.isSome) then
    let info := enumerationOf className body.toKeywords
    (.enumeration info, dialect.types.target info.base.name body.format)
  else if primary = some .array || (primary.isNone && body.items.isSome) then
    let items := dialect.modelItems body
    (.array items, TypeTable.arrayOf items.type.dataType)
  else if primary = some .object || (primary.isNone && hasMembers) then
    (.object, className)
  else match scalar with
    | some scalar => (.primitive scalar, dialect.types.target scalar.name body.format)
    | none => (.untyped, dialect.typeDeclaration body)

/-- A statement holds of the kind of a model if it holds of each kind that there is: of an
enumeration and of a list with what the body gives them. -/
theorem modelKind_cases (className : String) (hasMembers : Bool) (body : Schema)
    {P : ModelKind → Prop}
    (enumeration : P (.enumeration (enumerationOf className body.toKeywords)))
    (array : P (.array (dialect.modelItems body))) (object : P .object)
    (primitive : ∀ scalar, P (.primitive scalar)) (untyped : P .untyped) :
    P (dialect.modelKind className hasMembers body).1 := by
  unfold modelKind
  dsimp only
  split
  · exact enumeration
  · split
    · exact array
    · split
      · exact object
      · split
        · exact primitive _
        · exact untyped

/-! ## Models -/

/-- The names that a model mentions in its properties and its composition. -/
def mentions (model : Model) : List String :=
  let items := match model.kind with
    | .array items => [items]
    | _ => []
  (model.vars ++ model.additionalProperties.toList ++ items).filterMap Property.model?
    ++ model.oneOf ++ model.anyOf ++ model.allOf

/-- The names that a model needs: those it mentions, except its own and those that need no model. -/
def modelImports (model : Model) : List String :=
  distinctSorted ((mentions model).filter fun name =>
    name != model.className && !dialect.isPrimitive name)

/-- A model of which only the name is known. -/
def untypedModel (name : String) : Model where
  name
  className := dialect.naming.modelName name
  fieldName := dialect.naming.fieldName name
  dataType := dialect.types.anyType

/-- The model of a schema body under a name. -/
def bodyModel (name : String) (body : Schema) : Model :=
  let className := dialect.naming.modelName name
  let vars := dialect.vars body
  let additional := dialect.additional body
  let kind := dialect.modelKind className (!vars.isEmpty || additional.isSome) body
  let allOf := dialect.branchModels body
  let oneOf := body.oneOf.map dialect.memberName
  let model : Model :=
    { dialect.untypedModel name with
      title := body.title
      description := body.description
      kind := kind.1
      dataType := kind.2
      vars
      additionalProperties := additional
      parent := allOf.head?
      allOf
      oneOf
      oneOfModels := distinctSorted (oneOf.filter (!dialect.isPrimitive ·))
      anyOf := body.anyOf.map dialect.memberName
      discriminator := dialect.discriminator body
      nullable := body.isNullable
      deprecated := body.deprecated.getD false
      limits := limitsOf body.toKeywords
      extensions := vendorExtensions body.extensions }
  { model with
    mandatory := model.requiredVars.map (·.names.base)
    imports := dialect.modelImports model }

/-- The model of a component schema; one whose references lead nowhere is untyped. -/
def model (document : Document) (name : String) (schema : Referable Schema) : Model :=
  match document.schema schema with
  | .ok body => dialect.bodyModel name body
  | .error _ => dialect.untypedModel name

/-- The models of a document, by schema name. -/
def models (document : Document) : List Model :=
  document.schemas.sorted.map fun entry => dialect.model document entry.1 entry.2

/-! ## Reports -/

/-- What is reported for the declared properties of a model. -/
def declarationNotices (model : String) : (seen : List String) → List Declaration → List Notice
  | _, [] => []
  | seen, declaration :: rest =>
    if seen.contains declaration.name then
      .duplicateProperty model declaration.name :: declarationNotices model seen rest
    else
      propertyNotices declaration.name declaration.schema
        ++ declarationNotices model (declaration.name :: seen) rest

/-- What is reported for the items of a list model. -/
def itemNotices (kind : ModelKind) (body : Schema) : List Notice :=
  match kind, body.items with
  | .array _, some schema => propertyNotices itemsName schema
  | _, _ => []

/-- What is reported when a component schema is resolved. -/
def modelNotices (document : Document) (name : String) (schema : Referable Schema) :
    List Notice :=
  match document.schema schema with
  | .error e => [.untypedSchema name e]
  | .ok body =>
    declarationNotices name [] (declarations body)
    ++ (match body.additionalProperties with
      | some (.values schema) => propertyNotices additionalName schema
      | _ => [])
    ++ itemNotices (dialect.bodyModel name body).kind body

end Dialect

end OpenApi
