import OpenApi.Proofs.SchemaUses
import OpenApi.Resolution.Model

/-!
# Schemas as models and as properties

A schema is classified in two ways: as the body of a component, and wherever else it is in use.
Both ask the same questions, but not in the same order. Where no type is declared, a property
asks for members first and for items then, and a model asks for items first. So enumerations,
lists and scalars are the same in both, except for a schema that has items and members: that is a
list only as a model.

## Main definitions

* `Classification`: what the kinds of models and of properties have in common.
* `Schema.ListAndRecord`: a schema without a type that has items and members.

## Main statements

* `modelKind_eq`: the kind of a model, by the shape that its body has as a property.
* `classification_eq_iff`: the two classifications of a schema agree, unless it has items
  and members.
-/
namespace OpenApi

open Resolved (EnumMember Model ModelKind Property PropertyKind PropertyType ScalarKind)

/-! ## Classifications -/

/-- What the kinds of models and of properties have in common: enumerations, with their bases and
their members, lists and scalars, with their types, and whatever else there is. -/
inductive Classification where
  | enumeration (base : ScalarKind) (members : List EnumMember)
  | list (dataType : String)
  | scalar (scalar : ScalarKind) (dataType : String)
  | other

namespace Resolved

/-- The classification of a kind with some type. -/
def ModelKind.classification (kind : ModelKind) (dataType : String) : Classification :=
  match kind with
  | enumeration info => .enumeration info.base info.members
  | array _ => .list dataType
  | primitive scalar => .scalar scalar dataType
  | object | untyped => .other

/-- The classification of a model. -/
def Model.classification (model : Model) : Classification :=
  model.kind.classification model.dataType

/-- The classification of the type of a property. -/
def PropertyType.classification (type : PropertyType Property) : Classification :=
  match type.kind with
  | .enumeration info => .enumeration info.base info.members
  | .array _ => .list type.dataType
  | .string => .scalar .string type.dataType
  | .integer => .scalar .integer type.dataType
  | .number => .scalar .number type.dataType
  | .boolean => .scalar .boolean type.dataType
  | .map _ | .model _ | .freeForm | .any => .other

end Resolved

/-! ## Shapes -/

theorem Keywords.primaryType_ne_null (keywords : Keywords) : keywords.primaryType ≠ some .null := by
  intro h
  obtain ⟨types, -, hprimary⟩ := Option.bind_eq_some_iff.1 h
  simpa using List.find?_some hprimary

namespace Schema

/-- What a schema is as a property, before the schemas it holds are looked at. -/
def shape (schema : Schema) : Dialect.Shape :=
  Dialect.shapeOf schema.toKeywords (!schema.properties.isEmpty) schema.additionalProperties.isSome
    schema.items.isSome

/-- A schema without a type or values that has items, and either properties or a rule for those that
are not listed. -/
structure ListAndRecord (schema : Schema) : Prop where
  untyped : schema.primaryType = none
  no_values : schema.enumValues = []
  has_items : schema.items.isSome = true
  has_members : schema.properties ≠ [] ∨ schema.additionalProperties.isSome = true

/-- As a property such a schema is an object, though it has items and declares no type. -/
theorem listAndRecord_iff {schema : Schema} : schema.ListAndRecord ↔
    schema.shape = .object ∧ schema.primaryType = none ∧ schema.items.isSome = true := by
  constructor
  · rintro ⟨huntyped, hvalues, hitems, hmembers⟩
    refine ⟨?_, huntyped, hitems⟩
    have hasked : (!schema.properties.isEmpty || schema.additionalProperties.isSome) = true := by
      simpa using hmembers
    simp [shape, Dialect.shapeOf, huntyped, hvalues, hasked]
  · rintro ⟨hshape, huntyped, hitems⟩
    simp only [shape, Dialect.shapeOf, huntyped, hitems] at hshape
    split at hshape
    · nomatch hshape
    · rename_i hvalues
      split at hshape
      · rename_i hasked
        exact ⟨huntyped, by simpa using hvalues, hitems, by simpa using hasked⟩
      · nomatch hshape

end Schema

namespace Dialect

variable {dialect : Dialect}

/-! ## Models -/

/-- **The kind of a model, by the shape that its body has as a property.** Enumerations, lists and
scalars are what they are there, but an object without a declared type is a list if it has items. -/
theorem modelKind_eq (className : String) (hasMembers : Bool) (body : Schema) :
    dialect.modelKind className hasMembers body =
      match body.shape with
      | .enumeration =>
        let info := enumerationOf className body.toKeywords
        (.enumeration info, dialect.types.target info.base.name body.format)
      | .array =>
        let items := dialect.modelItems body
        (.array items, TypeTable.arrayOf items.type.dataType)
      | .scalar scalar => (.primitive scalar, dialect.types.target scalar.name body.format)
      | .object =>
        if body.primaryType = none ∧ body.items.isSome then
          let items := dialect.modelItems body
          (.array items, TypeTable.arrayOf items.type.dataType)
        else if body.primaryType = some .object ∨ hasMembers then (.object, className)
        else (.untyped, dialect.typeDeclaration body)
      | .undecided =>
        if hasMembers then (.object, className) else (.untyped, dialect.typeDeclaration body) := by
  unfold modelKind Schema.shape shapeOf
  have hnull := body.primaryType_ne_null
  cases hprimary : body.primaryType with
  | none =>
    -- The keywords decide: both ask for values first, and then for the others in their own order.
    cases body.enumValues.isEmpty with
    | false => simp
    | true =>
      cases body.items.isSome <;> cases body.properties.isEmpty <;>
        cases body.additionalProperties.isSome <;> simp
  | some type =>
    cases type with
    | null => exact absurd hprimary hnull
    | array => simp [SchemaType.scalar?]
    | object => simp [SchemaType.scalar?]
    | _ => cases body.enumValues.isEmpty <;> simp [SchemaType.scalar?]

/-! ## Agreement -/

/-- The items of a list have one type in a model and in a property. -/
theorem dataType_modelItems (name : String) (body : Schema) :
    (dialect.modelItems body).type.dataType =
      (match body.items with
        | some items => dialect.property (itemName name) false items
        | none => dialect.anyProperty (itemName name) false).type.dataType := by
  unfold modelItems
  cases body.items with
  | none => exact (sameUse_anyProperty itemsName (itemName name) false false).dataType_eq
  | some items => exact (sameUse_property itemsName (itemName name) false false items).dataType_eq

theorem classification_scalarType (scalar : ScalarKind) (format : Option String) :
    (dialect.scalarType scalar format).classification =
      .scalar scalar (dialect.types.target scalar.name format) := by
  cases scalar <;> rfl

/-- The classification of the type of a property, by the shape of its schema. -/
theorem classification_schemaType (name : String) (body : Schema) :
    (dialect.schemaType name body).classification =
      match body.shape with
      | .enumeration =>
        .enumeration (enumerationBase body.toKeywords) (body.enumValues.map enumMemberOf)
      | .array => .list (TypeTable.arrayOf (dialect.modelItems body).type.dataType)
      | .scalar scalar => .scalar scalar (dialect.types.target scalar.name body.format)
      | .object | .undecided => .other := by
  rw [schemaType_eq, Schema.shape]
  cases Dialect.shapeOf body.toKeywords (!body.properties.isEmpty)
      body.additionalProperties.isSome body.items.isSome with
  | enumeration => rfl
  | array =>
    rw [dataType_modelItems name]
    rfl
  | scalar scalar => exact classification_scalarType scalar body.format
  | object =>
    dsimp only
    split
    · rfl
    · rcases body.additionalProperties with _ | ((_ | _) | _) <;> rfl
  | undecided =>
    dsimp only
    split <;> rfl

/-- A schema with items and members is a list as a model. -/
theorem classification_modelKind_of_listAndRecord (className : String) (hasMembers : Bool)
    {body : Schema} (h : body.ListAndRecord) :
    (dialect.modelKind className hasMembers body).1.classification
        (dialect.modelKind className hasMembers body).2 =
      .list (dialect.modelKind className hasMembers body).2 := by
  obtain ⟨hshape, huntyped, hitems⟩ := Schema.listAndRecord_iff.1 h
  rw [modelKind_eq, hshape]
  dsimp only
  rw [if_pos ⟨huntyped, hitems⟩]
  rfl

/-- Every other schema is classified as a model in the way it is as a property. -/
theorem classification_modelKind (className name : String) (hasMembers : Bool) {body : Schema}
    (h : ¬body.ListAndRecord) :
    (dialect.modelKind className hasMembers body).1.classification
        (dialect.modelKind className hasMembers body).2 =
      (dialect.schemaType name body).classification := by
  rw [classification_schemaType, modelKind_eq]
  rw [Schema.listAndRecord_iff] at h
  cases hshape : body.shape with
  | object =>
    dsimp only
    rw [if_neg fun hlist => h ⟨hshape, hlist⟩]
    split <;> rfl
  | undecided =>
    dsimp only
    split <;> rfl
  | _ => rfl

end Dialect

/-- **A schema is classified alike as a model and as a property** exactly when it is not both a list
and a record. If it is, then it is a list as a model, and nothing like it as a property. -/
theorem classification_eq_iff {document : Document} {component : Referable Schema} {body : Schema}
    (h : document.schema component = .ok body) (dialect : Dialect) (name used : String)
    (required : Bool) :
    ((dialect.model document name component).classification =
        (dialect.property used required (.inline body)).type.classification ↔
      ¬body.ListAndRecord)
    ∧ (body.ListAndRecord →
      (dialect.model document name component).classification =
          .list (dialect.model document name component).dataType
        ∧ (dialect.property used required (.inline body)).type.classification = .other) := by
  rw [Dialect.model, h, Dialect.property]
  dsimp only
  have hdiffer (hboth : body.ListAndRecord) :
      (dialect.bodyModel name body).classification = .list (dialect.bodyModel name body).dataType
        ∧ (dialect.schemaType used body).classification = .other := by
    constructor
    · exact Dialect.classification_modelKind_of_listAndRecord _ _ hboth
    · rw [Dialect.classification_schemaType, (Schema.listAndRecord_iff.1 hboth).1]
  refine ⟨⟨fun heq hboth => ?_, Dialect.classification_modelKind _ used _⟩, hdiffer⟩
  obtain ⟨hlist, hother⟩ := hdiffer hboth
  rw [hlist, hother] at heq
  nomatch heq

/-- A list of dates whose branch declares a property, so that its model has one besides
its items. -/
def calendarSchema : Schema where
  items := some (.inline { type := some (.single .string), format := some "date" })
  allOf := [.inline { properties := [("zone", .inline { type := some (.single .string) })] }]

/-- A document in which one component is an alias of another. -/
def calendarDocument : Document where
  openapi := "3.0.3"
  info := { title := "calendar", version := "1" }
  components := some
    { schemas := Dict.ofEntries
        [("Calendar", .inline calendarSchema),
          ("Days", .reference "#/components/schemas/Calendar")] }

theorem classification_eq_iff_calendarDocument :
    calendarDocument.schema (.reference "#/components/schemas/Calendar") = .ok calendarSchema
      ∧ ¬calendarSchema.ListAndRecord
      ∧ (Dialect.model {} calendarDocument "Days"
          (.reference "#/components/schemas/Calendar")).classification =
        (Dialect.property {} "days" true (.inline calendarSchema)).type.classification
      ∧ (Dialect.property {} "days" true (.inline calendarSchema)).type.dataType =
        "Array<Date>" := by
  have hbody : calendarDocument.schema (.reference "#/components/schemas/Calendar") =
      .ok calendarSchema := by
    rw [Document.schema, follow, followFresh_reference]
    exact followFresh.eq_1 ..
  have hplain : ¬calendarSchema.ListAndRecord := fun h => by
    simpa [calendarSchema] using h.has_members
  exact ⟨hbody, hplain, (classification_eq_iff hbody {} "Days" "days" true).1.2 hplain,
    by decide +kernel⟩

/-- A list of texts with a label. -/
def rackSchema : Schema where
  properties := [("label", .inline { type := some (.single .string) })]
  items := some (.inline { type := some (.single .string) })

def rackDocument : Document where
  openapi := "3.0.3"
  info := { title := "racks", version := "1" }
  components := some { schemas := Dict.ofEntries [("Rack", .inline rackSchema)] }

/-- A list with a property is a list as a model, but an object as a property. -/
theorem rackSchema_classified_apart :
    rackDocument.schemas.get? "Rack" = some (.inline rackSchema)
      ∧ (Dialect.model {} rackDocument "Rack" (.inline rackSchema)).classification =
          .list "Array<string>"
      ∧ (Dialect.property {} "rack" false (.inline rackSchema)).type.classification = .other := by
  have hbody : rackDocument.schema (.inline rackSchema) = .ok rackSchema := followFresh.eq_1 ..
  rw [Dialect.model, hbody]
  exact ⟨rfl, rfl, rfl⟩

end OpenApi
