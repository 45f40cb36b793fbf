import OpenApi.Resolved.Model
import OpenApi.Resolved.Operation

/-!
# Resolved APIs

All that a generator needs of a document: the models by schema name, the operations in groups by
tag, and the security schemes by name.

## Main definitions

* `Api`: the whole.
* `Group`: the operations of a tag.
* `SecurityScheme`: a security scheme, with what its kind needs.
* `Api.ancestors`: the parents of a model, their parents, and so on.
-/
namespace OpenApi.Resolved

/-! ## Security -/

/-- How a scheme uses the authorization header. -/
inductive HttpScheme where
  | basic
  | bearer (format : Option String)
  | other (name : String)
deriving DecidableEq, Repr

/-- The ways to obtain a token. -/
inductive FlowKind where
  | authorizationCode
  | implicit
  | password
  | clientCredentials
deriving DecidableEq, Repr

/-- The spelling of a way to obtain a token. -/
def FlowKind.name : FlowKind → String
  | authorizationCode => "authorizationCode"
  | implicit => "implicit"
  | password => "password"
  | clientCredentials => "clientCredentials"

/-- A scope and what it allows. -/
structure Scope where
  name : String
  description : String
deriving DecidableEq, Repr

/-- What a security scheme needs. -/
inductive SecurityKind where
  | apiKey (parameter : String) (location : KeyLocation)
  | http (scheme : HttpScheme)
  | oauth2 (flow : Option FlowKind) (authorizationUrl tokenUrl refreshUrl : Option String)
      (scopes : List Scope)
  | openIdConnect (url : Option String)
  | mutualTls
deriving DecidableEq, Repr

/-- A security scheme. -/
structure SecurityScheme where
  name : String
  description : Option String := none
  kind : SecurityKind
  extensions : Dict Json := ∅

/-! ## The whole -/

/-- What the API is. -/
structure Info where
  title : String
  description : Option String := none
  version : String
  licenseName : Option String := none
  licenseUrl : Option String := none
  contactEmail : Option String := none
deriving DecidableEq, Repr

/-- Where the API is served. -/
structure Server where
  url : String
  description : Option String := none
deriving DecidableEq, Repr

/-- The operations of a tag, under a class name. -/
structure Group where
  tag : NameForms
  className : String
  operations : List Operation

/-- All that a generator needs. -/
structure Api where
  info : Info
  servers : List Server := []
  models : List Model := []
  groups : List Group := []
  securitySchemes : List SecurityScheme := []

namespace Api

/-- The first model with a class name. -/
def model? (api : Api) (className : String) : Option Model :=
  api.models.find? (·.className == className)

/-- The operations of all groups. -/
def operations (api : Api) : List Operation := api.groups.flatMap (·.operations)

/-- The models with another class name. -/
def others (className : String) (models : List Model) : List Model :=
  models.filter (·.className != className)

theorem length_others_lt {className : String} {models : List Model} {model : Model}
    (h : models.find? (·.className == className) = some model) :
    (others className models).length < models.length := by
  refine List.length_filter_lt_length_iff_exists.2 ⟨model, List.mem_of_find?_eq_some h, ?_⟩
  simpa using List.find?_some h

/-- The chain of parents that starts with a name, through models that it has not visited. -/
def parentsIn (fresh : List Model) : Option String → List Model
  | none => []
  | some parent =>
    match h : fresh.find? (·.className == parent) with
    | none => []
    | some model =>
      have _ := length_others_lt h
      model :: parentsIn (others parent fresh) model.parent
termination_by fresh.length

/-- The parent of a model, its parent, and so on; the chain ends at a name without a model and
before it would come to a name a second time. -/
def ancestors (api : Api) (className : String) : List Model :=
  parentsIn (others className api.models) ((api.model? className).bind (·.parent))

end Api

end OpenApi.Resolved
