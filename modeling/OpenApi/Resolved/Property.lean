import OpenApi.Naming
import OpenApi.TypeTable
import OpenApi.Json.Basic

/-!
# Resolved properties

A property is a schema in use, as a field, parameter, body, response, header or item: its names, its
type in the generated code, and what the schema says besides. A reference to a schema is a type of
its own and is never expanded.

## Main definitions

* `Property`: a property.
* `PropertyType`, `PropertyKind`: its type.
* `Limits`: the constraints on its values.
-/
namespace OpenApi.Resolved

/-! ## Enumerations -/

/-- The scalar types. -/
inductive ScalarKind where
  | string
  | integer
  | number
  | boolean
deriving DecidableEq, Repr

/-- The spelling of a scalar type. -/
def ScalarKind.name : ScalarKind → String
  | string => "string"
  | integer => "integer"
  | number => "number"
  | boolean => "boolean"

/-- A member of an enumeration: its identifier, its value for a literal in single quotes, and the
value as the document has it. -/
structure EnumMember where
  name : String
  value : String
  literal : Json

/-- An enumeration. -/
structure Enumeration where
  name : String
  base : ScalarKind
  members : List EnumMember

/-! ## Constraints -/

/-- The constraints on values, each bound inclusive unless it is flagged. -/
structure Limits where
  pattern : Option String := none
  minimum : Option Double := none
  maximum : Option Double := none
  exclusiveMinimum : Bool := false
  exclusiveMaximum : Bool := false
  multipleOf : Option Double := none
  minLength : Option Nat := none
  maxLength : Option Nat := none
  minItems : Option Nat := none
  maxItems : Option Nat := none
  uniqueItems : Bool := false
  minProperties : Option Nat := none
  maxProperties : Option Nat := none

/-- Whether there is any constraint. -/
def Limits.isPresent (limits : Limits) : Bool :=
  limits.pattern.isSome || limits.minimum.isSome || limits.maximum.isSome
    || limits.multipleOf.isSome || limits.minLength.isSome || limits.maxLength.isSome
    || limits.minItems.isSome || limits.maxItems.isSome || limits.uniqueItems
    || limits.minProperties.isSome || limits.maxProperties.isSome

/-! ## Types -/

/-- What kind of type a property has; `π` are the properties inside a container. -/
inductive PropertyKind (π : Type) where
  | string
  | integer
  | number
  | boolean
  | array (items : π)
  | map (values : π)
  | model (name : String)
  | enumeration (info : Enumeration)
  | freeForm
  | any

/-- The type of a property: its text, the text of what it holds, and its kind. -/
structure PropertyType (π : Type) where
  dataType : String
  baseType : String
  kind : PropertyKind π
  format : Option Format := none
  isPrimitive : Bool := false

/-! ## Properties -/

/-- The names of a property: in the document, in the generated code, and in the case styles. -/
structure PropertyNames where
  base : String
  identifier : String
  camel : String
  pascal : String
  snake : String
  small : String
deriving DecidableEq, Repr

/-- What a schema says of a property besides its type. -/
structure Traits where
  openApiType : Option String := none
  dataFormat : Option String := none
  nullable : Bool := false
  deprecated : Bool := false
  readOnly : Bool := false
  writeOnly : Bool := false
  title : Option String := none
  description : Option String := none
  exampleValue : Option Json := none
  defaultValue : Option Json := none
  limits : Limits := {}
  /-- Whether there is any constraint. -/
  hasLimits : Bool := false
  extensions : Dict Json := ∅

/-- A schema in use. -/
structure Property where
  names : PropertyNames
  required : Bool
  traits : Traits
  type : PropertyType Property

namespace Property

/-- Whether a property holds other properties. -/
def isContainer (property : Property) : Bool :=
  match property.type.kind with
  | .array _ | .map _ => true
  | _ => false

/-- Whether a property is a model. -/
def isModel (property : Property) : Bool :=
  match property.type.kind with
  | .model _ => true
  | _ => false

/-- The enumeration of a property that is one. -/
def enumeration? (property : Property) : Option Enumeration :=
  match property.type.kind with
  | .enumeration info => some info
  | _ => none

/-- The items of a property that is a list. -/
def items? (property : Property) : Option Property :=
  match property.type.kind with
  | .array items => some items
  | _ => none

/-- The model at the bottom of a property: the property itself, or inside its containers. -/
def model? : Property → Option String
  | ⟨_, _, _, ⟨_, _, kind, _, _⟩⟩ =>
    match kind with
    | .model name => some name
    | .array items => items.model?
    | .map values => values.model?
    | _ => none
termination_by structural property => property

end Property

end OpenApi.Resolved
