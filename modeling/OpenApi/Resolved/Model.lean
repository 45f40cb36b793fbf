import OpenApi.Resolved.Property

/-!
# Resolved models

A model is a component schema under a class name. It refers to other models by their class names.

## Main definitions

* `Model`: a model.
* `ModelKind`: what the generated code makes of it.
* `Discriminator`: how the members of a union are told apart.
-/
namespace OpenApi.Resolved

/-- What a model becomes. -/
inductive ModelKind where
  | object
  | array (items : Property)
  | enumeration (info : Enumeration)
  | primitive (scalar : ScalarKind)
  | untyped

/-- The spelling of a kind of model. -/
def ModelKind.name : ModelKind → String
  | object => "object"
  | array _ => "array"
  | enumeration _ => "enum"
  | primitive _ => "primitive"
  | untyped => "untyped"

/-- A value of a discriminating property and the model that it selects. -/
structure MappedModel where
  value : String
  model : String
deriving DecidableEq, Repr

/-- Where the selection of a discriminator comes from. -/
inductive DiscriminatorMapping where
  | absent
  /-- The document lists it. -/
  | explicit (entries : List MappedModel)
  /-- The members of the union give it. -/
  | inferred (entries : List MappedModel)
deriving DecidableEq, Repr

/-- The entries of a mapping. -/
def DiscriminatorMapping.entries : DiscriminatorMapping → List MappedModel
  | absent => []
  | explicit entries => entries
  | inferred entries => entries

/-- How the members of a union are told apart. -/
structure Discriminator where
  propertyName : String
  mapping : DiscriminatorMapping
deriving DecidableEq, Repr

/-- A component schema under a class name. -/
structure Model where
  name : String
  className : String
  fieldName : String
  title : Option String := none
  description : Option String := none
  kind : ModelKind := .untyped
  dataType : String
  /-- The properties, by name. -/
  vars : List Property := []
  /-- The names of the properties that must be there. -/
  mandatory : List String := []
  additionalProperties : Option Property := none
  parent : Option String := none
  allOf : List String := []
  oneOf : List String := []
  /-- The members of the union that are models, in increasing order. -/
  oneOfModels : List String := []
  anyOf : List String := []
  discriminator : Option Discriminator := none
  /-- The other models that the model needs, in increasing order. -/
  imports : List String := []
  nullable : Bool := false
  deprecated : Bool := false
  limits : Limits := {}
  extensions : Dict Json := ∅

namespace Model

/-- Whether a model is an enumeration. -/
def isEnumeration (model : Model) : Bool :=
  match model.kind with
  | .enumeration _ => true
  | _ => false

/-- The properties that must be there. -/
def requiredVars (model : Model) : List Property := model.vars.filter (·.required)

/-- The properties that may be missing. -/
def optionalVars (model : Model) : List Property := model.vars.filter (!·.required)

/-- The properties that are only read. -/
def readOnlyVars (model : Model) : List Property := model.vars.filter (·.traits.readOnly)

end Model

end OpenApi.Resolved
