import OpenApi.Document.Schema

/-!
# Documents

An API description as it is written: paths with their operations, and the components that operations
refer to.

## Main definitions

* `Document`: the whole description.
* `Components`: its named parts.
* `PathItem`, `Operation`, `Method`: what can be done at a path.
* `Parameter`, `RequestBody`, `Response`, `Header`: the parts of an operation.
* `SecurityScheme`: how a caller is authenticated.
-/
namespace OpenApi

/-! ## Description -/

/-- Whom to ask. -/
structure Contact where
  name : Option String := none
  url : Option String := none
  email : Option String := none

/-- The terms of use. -/
structure License where
  name : String
  url : Option String := none

/-- What the API is. -/
structure Info where
  title : String
  description : Option String := none
  version : String
  termsOfService : Option String := none
  contact : Option Contact := none
  license : Option License := none

/-- A group of operations. -/
structure Tag where
  name : String
  description : Option String := none

/-- A part of a server address that the caller fills in. -/
structure ServerVariable where
  defaultValue : String
  description : Option String := none
  enumValues : List String := []

/-- Where the API is served. -/
structure Server where
  url : String
  description : Option String := none
  placeholders : Dict ServerVariable := ∅

/-! ## Security -/

/-- The kinds of security scheme. -/
inductive SecuritySchemeType where
  | apiKey
  | http
  | oauth2
  | openIdConnect
  | mutualTls
deriving DecidableEq, Repr

namespace SecuritySchemeType

/-- The spelling of a kind. -/
def name : SecuritySchemeType → String
  | apiKey => "apiKey"
  | http => "http"
  | oauth2 => "oauth2"
  | openIdConnect => "openIdConnect"
  | mutualTls => "mutualTLS"

/-- Every kind by its spelling. -/
def byName : List (String × SecuritySchemeType) :=
  [apiKey, http, oauth2, openIdConnect, mutualTls].map fun type => (type.name, type)

end SecuritySchemeType

/-- Where an API key is sent. -/
inductive KeyLocation where
  | query
  | header
  | cookie
deriving DecidableEq, Repr

namespace KeyLocation

/-- The spelling of a location. -/
def name : KeyLocation → String
  | query => "query"
  | header => "header"
  | cookie => "cookie"

/-- Every location by its spelling. -/
def byName : List (String × KeyLocation) :=
  [query, header, cookie].map fun location => (location.name, location)

end KeyLocation

/-- One way to obtain a token. -/
structure OAuthFlow where
  authorizationUrl : Option String := none
  tokenUrl : Option String := none
  refreshUrl : Option String := none
  scopes : Dict String := ∅

/-- The ways to obtain a token. -/
structure OAuthFlows where
  implicit : Option OAuthFlow := none
  password : Option OAuthFlow := none
  clientCredentials : Option OAuthFlow := none
  authorizationCode : Option OAuthFlow := none

/-- How a caller is authenticated. -/
structure SecurityScheme where
  type : SecuritySchemeType
  description : Option String := none
  name : Option String := none
  location : Option KeyLocation := none
  scheme : Option String := none
  bearerFormat : Option String := none
  flows : Option OAuthFlows := none
  openIdConnectUrl : Option String := none
  extensions : Dict Json := ∅

/-- Scheme names with the scopes that each needs. -/
abbrev SecurityRequirement := Dict (List String)

/-! ## Parts of an operation -/

/-- Where a parameter is sent. -/
inductive ParameterLocation where
  | query
  | header
  | path
  | cookie
deriving DecidableEq, Repr

namespace ParameterLocation

/-- The spelling of a location. -/
def name : ParameterLocation → String
  | query => "query"
  | header => "header"
  | path => "path"
  | cookie => "cookie"

/-- Every location by its spelling. -/
def byName : List (String × ParameterLocation) :=
  [query, header, path, cookie].map fun location => (location.name, location)

end ParameterLocation

/-- A parameter. -/
structure Parameter where
  name : String
  location : ParameterLocation
  description : Option String := none
  required : Bool := false
  deprecated : Option Bool := none
  schema : Option (Referable Schema) := none
  style : Option String := none
  explode : Option Bool := none
  exampleValue : Option Json := none
  extensions : Dict Json := ∅

/-- What a body holds under one content type. -/
structure MediaType where
  schema : Option (Referable Schema) := none
  exampleValue : Option Json := none

/-- The body of a request. -/
structure RequestBody where
  description : Option String := none
  content : Dict MediaType := ∅
  required : Bool := false

/-- A header of a response. -/
structure Header where
  description : Option String := none
  required : Bool := false
  deprecated : Option Bool := none
  schema : Option (Referable Schema) := none

/-- A response. -/
structure Response where
  description : String := ""
  content : Dict MediaType := ∅
  headers : Dict (Referable Header) := ∅
  extensions : Dict Json := ∅

/-! ## Operations -/

/-- The methods that a path may offer, in the order in which they are listed. -/
inductive Method where
  | get
  | put
  | post
  | delete
  | options
  | head
  | patch
  | trace
deriving DecidableEq, Repr

namespace Method

/-- The methods in order. -/
def all : List Method := [get, put, post, delete, options, head, patch, trace]

/-- The spelling of a method in a request. -/
def name : Method → String
  | get => "GET"
  | put => "PUT"
  | post => "POST"
  | delete => "DELETE"
  | options => "OPTIONS"
  | head => "HEAD"
  | patch => "PATCH"
  | trace => "TRACE"

end Method

/-- An operation. -/
structure Operation where
  operationId : Option String := none
  summary : Option String := none
  description : Option String := none
  tags : List String := []
  parameters : List (Referable Parameter) := []
  requestBody : Option (Referable RequestBody) := none
  responses : Dict (Referable Response) := ∅
  deprecated : Option Bool := none
  /-- An empty list lifts the requirement of the document. -/
  security : Option (List SecurityRequirement) := none
  extensions : Dict Json := ∅

/-- The operations of a path. -/
structure PathItem where
  summary : Option String := none
  description : Option String := none
  parameters : List (Referable Parameter) := []
  get : Option Operation := none
  put : Option Operation := none
  post : Option Operation := none
  delete : Option Operation := none
  options : Option Operation := none
  head : Option Operation := none
  patch : Option Operation := none
  trace : Option Operation := none

namespace PathItem

/-- The operation of a method. -/
def operation? (item : PathItem) : Method → Option Operation
  | .get => item.get
  | .put => item.put
  | .post => item.post
  | .delete => item.delete
  | .options => item.options
  | .head => item.head
  | .patch => item.patch
  | .trace => item.trace

/-- The operations with their methods, in the order of the methods. -/
def operations (item : PathItem) : List (Method × Operation) :=
  Method.all.filterMap fun method => (item.operation? method).map (method, ·)

/-- The parameters of the path followed by those of one of its operations. -/
def parametersOf (item : PathItem) (operation : Operation) : List (Referable Parameter) :=
  item.parameters ++ operation.parameters

end PathItem

/-! ## The whole -/

/-- The named parts of a document. -/
structure Components where
  schemas : Dict (Referable Schema) := ∅
  responses : Dict (Referable Response) := ∅
  parameters : Dict (Referable Parameter) := ∅
  requestBodies : Dict (Referable RequestBody) := ∅
  headers : Dict (Referable Header) := ∅
  securitySchemes : Dict SecurityScheme := ∅

/-- An API description. -/
structure Document where
  openapi : String
  info : Info
  servers : List Server := []
  paths : Dict PathItem := ∅
  components : Option Components := none
  tags : List Tag := []
  security : Option (List SecurityRequirement) := none

namespace Document

/-- The components, none being empty ones. -/
def parts (document : Document) : Components := document.components.getD {}

/-- The component schemas, in the order of the document. -/
def schemas (document : Document) : Dict (Referable Schema) := document.parts.schemas

end Document

end OpenApi
