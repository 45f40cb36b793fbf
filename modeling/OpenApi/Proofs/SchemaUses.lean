import OpenApi.Proofs.Declarations
import OpenApi.Resolution.Operation

/-!
# One schema in many places

A schema is in use under the name of a field, a parameter or a header, or under a fixed name as a
body, a response, an item or a value. The name stands in the names of the property, in the name of
an enumeration that it declares, and in the names of the items of a list. It stands nowhere else, so
all uses of a schema have the same type.

## Main definitions

* `Property.SameUse`: two properties differ only in names and in whether they are required.
* `Dialect.Uses`: the places where a schema is in use.

## Main statements

* `Dialect.sameUse_property`: the name of a property does not show in its type or its traits.
* `Dialect.Uses.exists_property`: every use resolves the schema under some name.
* `sameUse_and_dataType_of_uses`: all uses of a schema have the same type.
-/
namespace OpenApi

open Resolved (Enumeration Property PropertyKind PropertyType)

/-! ## Types without names -/

namespace Resolved

/-- Two enumerations are the same but for their names. -/
structure Enumeration.Same (info other : Enumeration) : Prop where
  base : info.base = other.base
  members : info.members = other.members

mutual

/-- Two properties differ only in their names, names inside them included, and in whether they are
required. -/
inductive Property.SameUse : Property → Property → Prop
  | intro {property other : Property} (traits : property.traits = other.traits)
    (type : PropertyType.Same property.type other.type) : Property.SameUse property other

/-- Two types differ only in the names of enumerations and of the properties inside. -/
inductive PropertyType.Same : PropertyType Property → PropertyType Property → Prop
  | intro {type other : PropertyType Property} (dataType : type.dataType = other.dataType)
    (baseType : type.baseType = other.baseType) (kind : PropertyKind.Same type.kind other.kind)
    (format : type.format = other.format) (isPrimitive : type.isPrimitive = other.isPrimitive) :
    PropertyType.Same type other

/-- Two kinds differ only in the names of enumerations and of the properties inside. The values of
open records have one name everywhere, so no two kinds differ in the names of those. -/
inductive PropertyKind.Same : PropertyKind Property → PropertyKind Property → Prop
  | refl (kind : PropertyKind Property) : PropertyKind.Same kind kind
  | enumeration {info other : Enumeration} (h : info.Same other) :
    PropertyKind.Same (.enumeration info) (.enumeration other)
  | array {items others : Property} (required : items.required = others.required)
    (use : Property.SameUse items others) : PropertyKind.Same (.array items) (.array others)

end

theorem PropertyType.Same.refl (type : PropertyType Property) : PropertyType.Same type type :=
  .intro rfl rfl (.refl _) rfl rfl

namespace Property.SameUse

variable {property other : Property}

theorem dataType_eq (h : property.SameUse other) :
    property.type.dataType = other.type.dataType := by
  obtain ⟨_, ⟨dataType⟩⟩ := h
  exact dataType

end Property.SameUse

end Resolved

/-! ## Rules -/

namespace Dialect

variable {dialect : Dialect}

theorem same_enumerationType (name other : String) (keywords : Keywords) :
    (dialect.enumerationType name keywords).Same (dialect.enumerationType other keywords) :=
  .intro rfl rfl (.enumeration ⟨rfl, rfl⟩) rfl rfl

theorem same_arrayType {items others : Property} (hrequired : items.required = others.required)
    (h : items.SameUse others) : (arrayType items).Same (arrayType others) := by
  have hdata := h.dataType_eq
  exact .intro (congrArg TypeTable.arrayOf hdata) hdata (.array hrequired h) rfl rfl

theorem sameUse_anyProperty (name other : String) (required needed : Bool) :
    (dialect.anyProperty name required).SameUse (dialect.anyProperty other needed) :=
  .intro rfl (.refl _)

-- Structural on the schema: a list goes on to its items under the longer names, and no other rule
-- hands the name on.
mutual

/-- **The name of a property does not show in its type or its traits**, and neither does whether it
is required. -/
theorem sameUse_property (name other : String) (required needed : Bool) :
    ∀ schema : Referable Schema,
      (dialect.property name required schema).SameUse (dialect.property other needed schema)
  | .reference path => by
    rw [property, property]
    exact .intro rfl (.refl _)
  | .inline schema => by
    rw [property, property]
    exact .intro rfl (same_schemaType name other schema)
termination_by structural schema => schema

theorem same_schemaType (name other : String) :
    ∀ schema : Schema, (dialect.schemaType name schema).Same (dialect.schemaType other schema)
  | ⟨keywords, properties, additional, items, allOf, oneOf, anyOf⟩ => by
    rw [schemaType_eq, schemaType_eq]
    dsimp only
    cases shapeOf keywords (!properties.isEmpty) additional.isSome items.isSome with
    | enumeration => exact same_enumerationType name other keywords
    | array =>
      cases items with
      | none => exact same_arrayType rfl (sameUse_anyProperty _ _ false false)
      | some schema =>
        have hitems := sameUse_property (itemName name) (itemName other) false false schema
        refine same_arrayType ?_ hitems
        rw [required_property, required_property]
    | _ => exact .refl _
termination_by structural schema => schema

end

/-! ## Uses -/

/-- The places where a schema is in use, each with the property that it is resolved to there. -/
inductive Uses (dialect : Dialect) (schema : Referable Schema) : Property → Prop
  /-- A property of a model. -/
  | field (name : String) (required : Bool) :
    Uses dialect schema (dialect.declared ⟨name, schema, required⟩)
  /-- What a model says of the properties that it does not list. -/
  | additional {body : Schema} {values : Property}
    (h : body.additionalProperties = some (.values schema))
    (hvalues : dialect.additional body = some values) : Uses dialect schema values
  /-- The items of a list model. -/
  | modelItems {body : Schema} (h : body.items = some schema) :
    Uses dialect schema (dialect.modelItems body)
  /-- The items of a list. -/
  | item {name : String} {whole : Schema} {items : Property} (h : whole.items = some schema)
    (hitems : (dialect.schemaType name whole).kind = .array items) : Uses dialect schema items
  /-- The values of an open record. -/
  | value {name : String} {whole : Schema} {values : Property}
    (h : whole.additionalProperties = some (.values schema))
    (hvalues : (dialect.schemaType name whole).kind = .map values) : Uses dialect schema values
  | parameter {parameter : Parameter} (h : parameter.schema = some schema) :
    Uses dialect schema (dialect.parameter parameter).schema
  | body {body : RequestBody} {contentType : String} {parameter : Resolved.Parameter}
    (h : firstSchema? body.content = some (contentType, schema))
    (hbody : dialect.bodyParameter body = some parameter) : Uses dialect schema parameter.schema
  | response {document : Document} {code contentType : String} {response : Response}
    {property : Property} (h : firstSchema? response.content = some (contentType, schema))
    (hresponse : (dialect.response document code response).schema = some property) :
    Uses dialect schema property
  | header {name : String} {header : Header} (h : header.schema = some schema) :
    Uses dialect schema (dialect.header name header).schema

/-- The items of a list are those that its schema declares. -/
theorem eq_of_kind_array {name : String} {whole : Schema} {items : Property}
    {schema : Referable Schema} (h : whole.items = some schema)
    (hitems : (dialect.schemaType name whole).kind = .array items) :
    items = dialect.property (itemName name) false schema := by
  rw [schemaType_eq] at hitems
  split at hitems
  case h_1 => nomatch hitems
  case h_2 =>
    rw [h] at hitems
    exact (PropertyKind.array.inj hitems).symm
  case h_3 =>
    split at hitems
    · nomatch hitems
    · split at hitems <;> nomatch hitems
  case h_4 kind _ => cases kind <;> nomatch hitems
  case h_5 => split at hitems <;> nomatch hitems

theorem eq_of_kind_map {name : String} {whole : Schema} {values : Property}
    {schema : Referable Schema} (h : whole.additionalProperties = some (.values schema))
    (hvalues : (dialect.schemaType name whole).kind = .map values) :
    values = dialect.property valueName false schema := by
  rw [schemaType_eq] at hvalues
  split at hvalues
  case h_1 => nomatch hvalues
  case h_2 => nomatch hvalues
  case h_3 =>
    rw [h] at hvalues
    split at hvalues
    · nomatch hvalues
    · exact (PropertyKind.map.inj hvalues).symm
  case h_4 kind _ => cases kind <;> nomatch hvalues
  case h_5 => split at hvalues <;> nomatch hvalues

/-- **Every use resolves the schema under some name.** -/
theorem Uses.exists_property {schema : Referable Schema} {property : Property}
    (h : dialect.Uses schema property) :
    ∃ name required, property = dialect.property name required schema := by
  cases h with
  | field name required => exact ⟨name, required, rfl⟩
  | additional h hvalues =>
    rw [Dialect.additional, h] at hvalues
    exact ⟨_, _, (Option.some.inj hvalues).symm⟩
  | modelItems h =>
    rw [Dialect.modelItems, h]
    exact ⟨_, _, rfl⟩
  | item h hitems => exact ⟨_, _, eq_of_kind_array h hitems⟩
  | value h hvalues => exact ⟨_, _, eq_of_kind_map h hvalues⟩
  | parameter h =>
    rw [Dialect.parameter, h]
    exact ⟨_, _, rfl⟩
  | body h hbody =>
    rw [bodyParameter, h] at hbody
    obtain rfl := Option.some.inj hbody
    exact ⟨_, _, rfl⟩
  | response h hresponse =>
    rw [Dialect.response, h] at hresponse
    exact ⟨_, _, (Option.some.inj hresponse).symm⟩
  | header h =>
    rw [Dialect.header, h]
    exact ⟨_, _, rfl⟩

end Dialect

/-- **All uses of a schema have the same type**, whatever they are called and whether they are
required. -/
theorem sameUse_and_dataType_of_uses (dialect : Dialect) (schema : Referable Schema) :
    (∀ name other required needed,
        (dialect.property name required schema).SameUse (dialect.property other needed schema))
      ∧ ∀ property other, dialect.Uses schema property → dialect.Uses schema other →
        property.SameUse other ∧ property.type.dataType = other.type.dataType := by
  have hsame (name other : String) (required needed : Bool) :
      (dialect.property name required schema).SameUse (dialect.property other needed schema) :=
    dialect.sameUse_property name other required needed schema
  refine ⟨hsame, fun property other huse hother => ?_⟩
  obtain ⟨name, required, rfl⟩ := huse.exists_property
  obtain ⟨name', needed, rfl⟩ := hother.exists_property
  exact ⟨hsame name name' required needed, (hsame name name' required needed).dataType_eq⟩

/-- A list of values of an enumeration. -/
def statesSchema : Referable Schema :=
  .inline
    { items := some (.inline
        { type := some (.single .string), enumValues := [.string "on", .string "off"] }) }

/-- A parameter with these values. -/
def statesParameter : Parameter where
  name := "states"
  location := .query
  schema := some statesSchema

/-- A header with these values. -/
def statesHeader : Header where
  schema := some statesSchema

/-- A parameter and a header of one schema have one type, though the enumerations in them have two
names. -/
theorem sameUse_and_dataType_of_uses_states :
    (Dialect.parameter {} statesParameter).schema.SameUse
        (Dialect.header {} "Last-State" statesHeader).schema
      ∧ (Dialect.header {} "Last-State" statesHeader).schema.type.dataType = "Array<string>"
      ∧ ((Dialect.parameter {} statesParameter).schema.items?.bind (·.enumeration?)).map (·.name) =
        some "StatesItemEnum"
      ∧ ((Dialect.header {} "Last-State" statesHeader).schema.items?.bind (·.enumeration?)).map
        (·.name) = some "LastStateItemEnum" := by
  have hparameter : Dialect.Uses {} statesSchema (Dialect.parameter {} statesParameter).schema :=
    .parameter rfl
  have hheader :
      Dialect.Uses {} statesSchema (Dialect.header {} "Last-State" statesHeader).schema :=
    .header rfl
  have hsame := (sameUse_and_dataType_of_uses {} statesSchema).2 _ _ hparameter hheader
  exact ⟨hsame.1, by decide +kernel, by decide +kernel, by decide +kernel⟩

end OpenApi
