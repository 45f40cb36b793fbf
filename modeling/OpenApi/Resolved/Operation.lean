import OpenApi.Document.Basic
import OpenApi.Resolved.Property

/-!
# Resolved operations

An operation with everything it refers to in place: its parameters, its body as one more parameter,
its responses, and the names under which generated code offers it.

## Main definitions

* `Operation`: an operation.
* `Parameter`, `Buckets`: its parameters, and the same sorted by what they are.
* `Response`, `StatusClass`: its responses.
-/
namespace OpenApi.Resolved

/-! ## Parameters -/

/-- Where a parameter is sent; the body counts as a parameter. -/
inductive ParameterPlace where
  | path
  | query
  | header
  | cookie
  | body
deriving DecidableEq, Repr

/-- The spelling of a place. -/
def ParameterPlace.name : ParameterPlace → String
  | path => "path"
  | query => "query"
  | header => "header"
  | cookie => "cookie"
  | body => "body"

/-- A parameter; `names.identifier` tells the parameters of an operation apart. -/
structure Parameter where
  names : PropertyNames
  place : ParameterPlace
  required : Bool
  deprecated : Bool := false
  description : Option String := none
  style : Option String := none
  explode : Bool := false
  exampleValue : Option Json := none
  /-- The content type of the body. -/
  contentType : Option String := none
  schema : Property
  extensions : Dict Json := ∅

/-- The parameters of an operation, sorted by what they are. -/
structure Buckets where
  path : List Parameter := []
  query : List Parameter := []
  header : List Parameter := []
  cookie : List Parameter := []
  body : Option Parameter := none
  required : List Parameter := []
  optional : List Parameter := []

/-- Sort parameters by what they are. -/
def Buckets.of (parameters : List Parameter) : Buckets :=
  let sentIn (place : ParameterPlace) := parameters.filter (·.place == place)
  { path := sentIn .path
    query := sentIn .query
    header := sentIn .header
    cookie := sentIn .cookie
    body := parameters.find? (·.place == .body)
    required := parameters.filter (·.required)
    optional := parameters.filter (!·.required) }

/-! ## Responses -/

/-- The class of a status code. -/
inductive StatusClass where
  | informational
  | success
  | redirection
  | clientError
  | serverError
  | fallback
deriving DecidableEq, Repr

namespace StatusClass

/-- The spelling of a class. -/
def name : StatusClass → String
  | informational => "1xx"
  | success => "2xx"
  | redirection => "3xx"
  | clientError => "4xx"
  | serverError => "5xx"
  | fallback => "default"

/-- The class of a code, which its first character decides. -/
def ofCode (code : String) : StatusClass :=
  match code.toList.head? with
  | some '1' => informational
  | some '2' => success
  | some '3' => redirection
  | some '4' => clientError
  | some '5' => serverError
  | _ => fallback

end StatusClass

/-- A header of a response. -/
structure Header where
  name : String
  description : Option String := none
  required : Bool
  schema : Property

/-- A response. -/
structure Response where
  code : String
  description : String
  schema : Option Property := none
  contentTypes : List String := []
  headers : List Header := []
  extensions : Dict Json := ∅

/-- The class of the code of a response. -/
def Response.statusClass (response : Response) : StatusClass := .ofCode response.code

/-! ## Operations -/

/-- A security scheme that an operation needs, with its scopes. -/
structure Authorization where
  name : String
  scopes : List String
deriving DecidableEq, Repr

/-- The id of an operation and its forms. -/
structure OperationNames where
  id : String
  camel : String
  snake : String
  small : String
  nickname : String
deriving DecidableEq, Repr

/-- The forms of an id. -/
def OperationNames.of (id : String) : OperationNames :=
  let camel := String.ofList (Text.camelCase id.toList)
  { id, camel
    snake := String.ofList (Text.snakeCase id.toList)
    small := Text.toSmall id
    nickname := camel }

/-- An operation with everything it refers to in place. -/
structure Operation where
  names : OperationNames
  /-- The id in the document. -/
  originalId : Option String := none
  path : String
  method : Method
  tag : String
  tags : List String
  summary : Option String := none
  notes : Option String := none
  deprecated : Bool := false
  parameters : List Parameter := []
  buckets : Buckets := {}
  responses : List Response := []
  result : Option Property := none
  authorizations : List Authorization := []
  consumes : List String := []
  produces : List String := []
  isMultipart : Bool := false
  /-- The models that the operation needs, in increasing order. -/
  imports : List String := []
  extensions : Dict Json := ∅

namespace Operation

/-- The type of the result. -/
def returnType (operation : Operation) : Option String :=
  operation.result.map (·.type.dataType)

/-- The type of what the result holds. -/
def returnBaseType (operation : Operation) : Option String :=
  operation.result.map (·.type.baseType)

end Operation

end OpenApi.Resolved
