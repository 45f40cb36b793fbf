import OpenApi.Json.Basic

/-!
# Schemas

The schema objects of a document. A schema refers to other schemas by name or holds them inline, so
schemas are trees whose leaves may be references.

## Main definitions

* `Referable`: a reference, or the object itself.
* `Keywords`: what a schema says besides the schemas it holds.
* `Schema`: a schema.
* `Keywords.primaryType`, `Keywords.isNullable`, `Schema.parentReference`: what resolution asks of
  it.
-/
namespace OpenApi

universe u

/-- A reference by path, or the object itself. -/
inductive Referable (α : Type u) where
  | reference (path : String)
  | inline (value : α)
deriving Repr, Inhabited

namespace Referable

variable {α : Type u}

/-- The path of a reference. -/
def path? : Referable α → Option String
  | reference path => some path
  | inline _ => none

/-- The object that is no reference. -/
def inline? : Referable α → Option α
  | reference _ => none
  | inline value => some value

end Referable

/-! ## Types -/

/-- The types that a schema may name. -/
inductive SchemaType where
  | string
  | number
  | integer
  | boolean
  | array
  | object
  | null
deriving DecidableEq, Repr

namespace SchemaType

/-- The spelling of a type. -/
def name : SchemaType → String
  | string => "string"
  | number => "number"
  | integer => "integer"
  | boolean => "boolean"
  | array => "array"
  | object => "object"
  | null => "null"

/-- Every type by its spelling. -/
def byName : List (String × SchemaType) :=
  [string, number, integer, boolean, array, object, null].map fun type => (type.name, type)

end SchemaType

/-- The types of a schema: one, or a list of them. -/
inductive TypeSet where
  | single (type : SchemaType)
  | several (types : List SchemaType)
deriving DecidableEq, Repr

namespace TypeSet

/-- The types, one by one. -/
def toList : TypeSet → List SchemaType
  | single type => [type]
  | several types => types

/-- The first type that is not null. -/
def primary (types : TypeSet) : Option SchemaType := types.toList.find? (· != .null)

/-- Whether null is among the types. -/
def allowsNull (types : TypeSet) : Bool := types.toList.contains .null

end TypeSet

/-! ## Keywords -/

/-- An exclusive bound: whether the inclusive bound is strict, or a strict bound of its own. -/
inductive ExclusiveBound where
  | flag (strict : Bool)
  | limit (value : Double)
deriving DecidableEq, Repr

/-- How the member schemas of a union are told apart. -/
structure Discriminator where
  propertyName : String
  mapping : Dict String := ∅

/-- What a schema says besides the schemas it holds. -/
structure Keywords where
  type : Option TypeSet := none
  format : Option String := none
  title : Option String := none
  description : Option String := none
  defaultValue : Option Json := none
  nullable : Option Bool := none
  deprecated : Option Bool := none
  required : List String := []
  minProperties : Option Nat := none
  maxProperties : Option Nat := none
  discriminator : Option Discriminator := none
  enumValues : List Json := []
  minimum : Option Double := none
  maximum : Option Double := none
  exclusiveMinimum : Option ExclusiveBound := none
  exclusiveMaximum : Option ExclusiveBound := none
  multipleOf : Option Double := none
  minLength : Option Nat := none
  maxLength : Option Nat := none
  pattern : Option String := none
  minItems : Option Nat := none
  maxItems : Option Nat := none
  uniqueItems : Option Bool := none
  readOnly : Option Bool := none
  writeOnly : Option Bool := none
  exampleValue : Option Json := none
  /-- The keys that no rule knows. -/
  extensions : Dict Json := ∅
deriving Inhabited

namespace Keywords

/-- The declared type, null aside. -/
def primaryType (keywords : Keywords) : Option SchemaType := keywords.type.bind TypeSet.primary

/-- Whether null is allowed: by the flag, or by the list of types. -/
def isNullable (keywords : Keywords) : Bool :=
  keywords.nullable.getD false || keywords.type.any TypeSet.allowsNull

end Keywords

/-! ## Schemas -/

/-- What a schema says of the properties it does not list. -/
inductive AdditionalProperties (α : Type u) where
  | allowed (flag : Bool)
  | values (schema : Referable α)

/-- A schema. -/
structure Schema extends Keywords where
  properties : List (String × Referable Schema) := []
  additionalProperties : Option (AdditionalProperties Schema) := none
  items : Option (Referable Schema) := none
  allOf : List (Referable Schema) := []
  oneOf : List (Referable Schema) := []
  anyOf : List (Referable Schema) := []
deriving Inhabited

namespace Schema

/-- The first reference among the `allOf` branches. -/
def parentReference (schema : Schema) : Option String := schema.allOf.findSome? Referable.path?

end Schema

end OpenApi
