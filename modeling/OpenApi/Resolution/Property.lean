import OpenApi.Json.Printer
import OpenApi.Notice
import OpenApi.Resolved.Property

/-!
# Resolving properties

How a schema in use becomes a property. What a schema is decides the kind, in this order: an
enumeration, a list, an object, a scalar; without a declared type the keywords decide. References
are resolved by name, and inline objects become free-form.

## Main definitions

* `Dialect`: the names and types of the generated code.
* `Dialect.property`, `Dialect.schemaType`: a schema in use, and its type.
* `Dialect.propertyNotices`: what is reported on the way.
* `enumerationOf`, `limitsOf`: the enumeration and the constraints of a schema.
-/
namespace OpenApi

open Resolved (EnumMember Enumeration Limits Property PropertyKind PropertyNames PropertyType
  ScalarKind Traits)

/-! ## Scalars and enumerations -/

namespace SchemaType

/-- The scalar that a type is. -/
def scalar? : SchemaType → Option ScalarKind
  | string => some .string
  | integer => some .integer
  | number => some .number
  | boolean => some .boolean
  | array | object | null => none

end SchemaType

/-- The scalar that an enumerated value belongs to. -/
def literalKind : Json → ScalarKind
  | .bool _ => .boolean
  | .number (.double _) => .number
  | .number (.int _) => .integer
  | _ => .string

/-- The text of an enumerated value: a text itself, anything else as JSON. -/
def literalText : Json → String
  | .string text => text
  | value => value.compact

/-- The member of an enumeration for a value. -/
def enumMemberOf (literal : Json) : EnumMember :=
  let text := (literalText literal).toList
  { name := String.ofList (Text.enumMember text)
    value := String.ofList (Text.escapeQuotes text)
    literal }

/-- The scalar that an enumeration is based on: the declared type, or the kind of its
first value. -/
def enumerationBase (keywords : Keywords) : ScalarKind :=
  match keywords.primaryType with
  | some type => type.scalar?.getD .string
  | none => (keywords.enumValues.head?.map literalKind).getD .string

/-- The enumeration of a schema. -/
def enumerationOf (name : String) (keywords : Keywords) : Enumeration where
  name
  base := enumerationBase keywords
  members := keywords.enumValues.map enumMemberOf

/-! ## Constraints -/

/-- An inclusive bound and an exclusive one as a single bound and whether it is strict. Of two
numbers the tighter is kept, the strict one when they are equal; `tighter e i` says that the strict
bound `e` is at least as tight as `i`. -/
def foldBound (tighter : Double → Double → Bool) :
    Option Double → Option ExclusiveBound → Option Double × Bool
  | inclusive, none => (inclusive, false)
  | inclusive, some (.flag strict) => (inclusive, strict)
  | none, some (.limit strict) => (some strict, true)
  | some inclusive, some (.limit strict) =>
    if tighter strict inclusive then (some strict, true) else (some inclusive, false)

/-- The constraints of a schema. -/
def limitsOf (keywords : Keywords) : Limits :=
  let low := foldBound (fun e i => i.le e) keywords.minimum keywords.exclusiveMinimum
  let high := foldBound (fun e i => e.le i) keywords.maximum keywords.exclusiveMaximum
  { pattern := keywords.pattern
    minimum := low.1
    maximum := high.1
    exclusiveMinimum := low.2
    exclusiveMaximum := high.2
    multipleOf := keywords.multipleOf
    minLength := keywords.minLength
    maxLength := keywords.maxLength
    minItems := keywords.minItems
    maxItems := keywords.maxItems
    uniqueItems := keywords.uniqueItems.getD false
    minProperties := keywords.minProperties
    maxProperties := keywords.maxProperties }

/-! ## Traits -/

/-- Whether a key is meant for tools. -/
def isVendorKey (name : String) : Bool := name.startsWith "x-"

/-- The keys meant for tools, with their values. -/
def vendorExtensions (extensions : Dict Json) : Dict Json := extensions.filter isVendorKey

/-- What a schema says of a property besides its type. -/
def traitsOf (keywords : Keywords) : Traits where
  openApiType := keywords.primaryType.map (·.name)
  dataFormat := keywords.format
  nullable := keywords.isNullable
  deprecated := keywords.deprecated.getD false
  readOnly := keywords.readOnly.getD false
  writeOnly := keywords.writeOnly.getD false
  title := keywords.title
  description := keywords.description
  exampleValue := keywords.exampleValue
  defaultValue := keywords.defaultValue
  limits := limitsOf keywords
  hasLimits := (limitsOf keywords).isPresent
  extensions := vendorExtensions keywords.extensions

/-! ## The dialect of the generated code -/

/-- The names and types of the generated code. -/
structure Dialect where
  naming : Naming := {}
  types : TypeTable := .standard

instance : Inhabited Dialect := ⟨{}⟩

namespace Dialect

variable (dialect : Dialect)

/-- The class name that a reference stands for. -/
def referenceModel (path : String) : String := dialect.naming.modelName (referenceTail path)

/-- The names of a property. -/
def propertyNames (name : String) : PropertyNames :=
  let forms := NameForms.of name
  let identifier := dialect.naming.fieldName name
  { base := name
    identifier
    camel := forms.camel
    pascal := forms.pascal
    snake := forms.snake
    small := Text.toSmall identifier }

/-! ## Types -/

/-- The type of any value. -/
def anyType : PropertyType Property where
  dataType := dialect.types.anyType
  baseType := dialect.types.anyType
  kind := .any

/-- The type of a model. -/
def modelType (name : String) : PropertyType Property where
  dataType := name
  baseType := name
  kind := .model name

/-- The type of an object whose members are not known. -/
def freeFormType : PropertyType Property where
  dataType := dialect.types.target "object" none
  baseType := dialect.types.target "object" none
  kind := .freeForm

/-- The type of a scalar. -/
def scalarType (scalar : ScalarKind) (format : Option String) : PropertyType Property :=
  let target := dialect.types.target scalar.name format
  let known := if scalar = .string then format.bind Format.ofName? else none
  { dataType := target
    baseType := target
    kind := match scalar with
      | .string => .string
      | .integer => .integer
      | .number => .number
      | .boolean => .boolean
    format := known
    isPrimitive := known != some .binary }

/-- The name of the enumeration that a property declares. -/
def enumerationName (name : String) : String := dialect.naming.modelName name ++ "Enum"

/-- The type of an enumeration. -/
def enumerationType (name : String) (keywords : Keywords) : PropertyType Property :=
  let info := enumerationOf (dialect.enumerationName name) keywords
  let target := dialect.types.target info.base.name keywords.format
  { dataType := target, baseType := target, kind := .enumeration info, isPrimitive := true }

/-- The type of a list. -/
def arrayType (items : Property) : PropertyType Property where
  dataType := TypeTable.arrayOf items.type.dataType
  baseType := items.type.dataType
  kind := .array items

/-- The type of an open record. -/
def mapType (values : Property) : PropertyType Property where
  dataType := TypeTable.mapOf values.type.dataType
  baseType := values.type.dataType
  kind := .map values

/-- A property of any type. -/
def anyProperty (name : String) (required : Bool) : Property where
  names := dialect.propertyNames name
  required
  traits := {}
  type := dialect.anyType

/-! ## Classification -/

/-- What a schema is, before the schemas it holds are looked at. -/
inductive Shape where
  | enumeration
  | array
  | object
  | scalar (kind : ScalarKind)
  /-- Neither a type nor a keyword decides. -/
  | undecided
deriving DecidableEq, Repr

/-- Classify a schema by its type and keywords. -/
def shapeOf (keywords : Keywords) (hasProperties hasAdditional hasItems : Bool) : Shape :=
  let primary := keywords.primaryType
  let scalar := primary.bind SchemaType.scalar?
  if !keywords.enumValues.isEmpty && (primary.isNone || scalar.isSome) then .enumeration
  else match primary with
    | some .array => .array
    | some .object => .object
    | some type => .scalar (type.scalar?.getD .string)
    | none =>
      if hasProperties || hasAdditional then .object
      else if hasItems then .array
      else .undecided

/-- The name of the items of a list. -/
def itemName (name : String) : String := name ++ "Item"

/-- The name of the values of an open record. -/
def valueName : String := "value"

/-! ## Resolution -/

mutual

/-- A schema in use under a name. -/
def property (name : String) (required : Bool) : Referable Schema → Property
  | .reference path =>
    { dialect.anyProperty name required with
      type := modelType (dialect.referenceModel path) }
  | .inline schema =>
    { names := dialect.propertyNames name
      required
      traits := traitsOf schema.toKeywords
      type := schemaType name schema }
termination_by structural schema => schema

/-- The type of a schema in use under a name. -/
def schemaType (name : String) : Schema → PropertyType Property
  | ⟨keywords, properties, additionalProperties, items, allOf, _, _⟩ =>
    match shapeOf keywords (!properties.isEmpty) additionalProperties.isSome items.isSome with
    | .enumeration => dialect.enumerationType name keywords
    | .array => arrayType (match items with
      | some schema => property (itemName name) false schema
      | none => dialect.anyProperty (itemName name) false)
    | .object =>
      if !properties.isEmpty then dialect.freeFormType
      else match additionalProperties with
        | some (.values schema) => mapType (property valueName false schema)
        | some (.allowed true) => mapType (dialect.anyProperty valueName false)
        | some (.allowed false) | none => dialect.freeFormType
    | .scalar kind => dialect.scalarType kind keywords.format
    | .undecided => match allOf.findSome? Referable.path? with
      | some path => modelType (dialect.referenceModel path)
      | none => dialect.anyType
termination_by structural schema => schema

end

/-- The type of a schema, by what it is. -/
theorem schemaType_eq (name : String) (schema : Schema) :
    dialect.schemaType name schema =
      match shapeOf schema.toKeywords (!schema.properties.isEmpty)
        schema.additionalProperties.isSome schema.items.isSome with
      | .enumeration => dialect.enumerationType name schema.toKeywords
      | .array => arrayType (match schema.items with
        | some items => dialect.property (itemName name) false items
        | none => dialect.anyProperty (itemName name) false)
      | .object =>
        if !schema.properties.isEmpty then dialect.freeFormType
        else match schema.additionalProperties with
          | some (.values values) => mapType (dialect.property valueName false values)
          | some (.allowed true) => mapType (dialect.anyProperty valueName false)
          | some (.allowed false) | none => dialect.freeFormType
      | .scalar kind => dialect.scalarType kind schema.format
      | .undecided => match schema.parentReference with
        | some path => modelType (dialect.referenceModel path)
        | none => dialect.anyType := by
  obtain ⟨keywords, properties, additional, items, allOf, oneOf, anyOf⟩ := schema
  unfold schemaType
  rfl

/-- What stands for a member of a union or branch: the model of the first referenced branch, or else
the target of its type. -/
def typeDeclaration (schema : Schema) : String :=
  match schema.parentReference with
  | some path => dialect.referenceModel path
  | none => dialect.types.target ((schema.primaryType.map (·.name)).getD "") schema.format

/-! ## Reports -/

mutual

/-- What is reported when a schema is resolved under a name. -/
def propertyNotices (name : String) : Referable Schema → List Notice
  | .reference _ => []
  | .inline schema => schemaNotices name schema
termination_by structural schema => schema

/-- What is reported when the type of a schema is resolved under a name. -/
def schemaNotices (name : String) : Schema → List Notice
  | ⟨keywords, properties, additionalProperties, items, allOf, oneOf, anyOf⟩ =>
    match shapeOf keywords (!properties.isEmpty) additionalProperties.isSome items.isSome with
    | .array => match items with
      | some schema => propertyNotices (itemName name) schema
      | none => []
    | .object =>
      if !properties.isEmpty then [.inlineObject name]
      else match additionalProperties with
        | some (.values schema) => propertyNotices valueName schema
        | _ => []
    | .undecided =>
      if (allOf.findSome? Referable.path?).isNone && !(oneOf.isEmpty && anyOf.isEmpty) then
        [.inlineUnion name]
      else []
    | .enumeration | .scalar _ => []
termination_by structural schema => schema

end

/-- What is reported for a schema, by what it is. -/
theorem schemaNotices_eq (name : String) (schema : Schema) :
    schemaNotices name schema =
      match shapeOf schema.toKeywords (!schema.properties.isEmpty)
        schema.additionalProperties.isSome schema.items.isSome with
      | .array => match schema.items with
        | some items => propertyNotices (itemName name) items
        | none => []
      | .object =>
        if !schema.properties.isEmpty then [.inlineObject name]
        else match schema.additionalProperties with
          | some (.values values) => propertyNotices valueName values
          | _ => []
      | .undecided =>
        if schema.parentReference.isNone && !(schema.oneOf.isEmpty && schema.anyOf.isEmpty) then
          [.inlineUnion name]
        else []
      | .enumeration | .scalar _ => [] := by
  obtain ⟨keywords, properties, additional, items, allOf, oneOf, anyOf⟩ := schema
  unfold schemaNotices
  rfl

end Dialect

end OpenApi
