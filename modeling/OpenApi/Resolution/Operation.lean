import OpenApi.Resolution.OperationIds
import OpenApi.Resolution.Parameters
import OpenApi.Resolution.Property

/-!
# Resolving operations

Each operation of a document becomes a resolved one. References to parameters, bodies, responses and
headers are followed, and what leads nowhere is left out and reported. The responses are listed by
code, the headers of a response by name.

## Main definitions

* `Dialect.operation`: the resolved operation of a site.
* `Document.sortedSites`, `Dialect.operations`: the operations by path and method.
* `Dialect.operationNotices`: what is reported on the way.
-/
namespace OpenApi

open Resolved (Authorization OperationNames ParameterPlace Property PropertyNames)

/-! ## Order -/

/-- The operations by path, and for one path in the order of the methods. -/
def Document.sortedSites (document : Document) : List OperationSite :=
  document.paths.sorted.flatMap fun entry => OperationSite.ofItem entry.1 entry.2

/-! ## Parameters -/

/-- The place of a parameter. -/
def ParameterLocation.place : ParameterLocation → ParameterPlace
  | .path => .path
  | .query => .query
  | .header => .header
  | .cookie => .cookie

/-- The style of a parameter that declares none. -/
def ParameterLocation.usualStyle : ParameterLocation → String
  | .query | .cookie => "form"
  | .path | .header => "simple"

/-- The schema of the first content type that has one, with that content type. -/
def firstSchema? (content : Dict MediaType) : Option (String × Referable Schema) :=
  content.entries.findSome? fun entry => entry.2.schema.map (entry.1, ·)

namespace Dialect

variable (dialect : Dialect)

/-- A schema in use, or any type without one. -/
def optionalProperty (name : String) (required : Bool) (schema : Option (Referable Schema)) :
    Property :=
  match schema with
  | some schema => dialect.property name required schema
  | none => dialect.anyProperty name required

/-- The names of a parameter. -/
def parameterNames (name : String) : PropertyNames :=
  let forms := NameForms.of name
  let identifier := dialect.naming.parameterName name
  { base := name
    identifier
    camel := identifier
    pascal := forms.pascal
    snake := forms.snake
    small := Text.toSmall identifier }

/-- A resolved parameter; one in the path is always required. -/
def parameter (p : Parameter) : Resolved.Parameter :=
  let required := p.required || p.location == .path
  let style := p.style.getD p.location.usualStyle
  { names := dialect.parameterNames p.name
    place := p.location.place
    required
    deprecated := p.deprecated.getD false
    description := p.description
    style := some style
    explode := p.explode.getD (style == "form")
    exampleValue := p.exampleValue
    schema := dialect.optionalProperty p.name required p.schema
    extensions := vendorExtensions p.extensions }

/-- The name of the body among the parameters. -/
def bodyName : String := "body"

/-- A request body as a parameter, when one of its content types has a schema. -/
def bodyParameter (body : RequestBody) : Option Resolved.Parameter :=
  (firstSchema? body.content).map fun (contentType, schema) =>
    { names := ⟨bodyName, bodyName, bodyName, "Body", bodyName, bodyName⟩
      place := .body
      required := body.required
      description := body.description
      contentType := some contentType
      schema := dialect.property bodyName body.required schema }

/-! ## Responses -/

/-- A resolved header. -/
def header (name : String) (h : Header) : Resolved.Header where
  name
  description := h.description
  required := h.required
  schema := dialect.optionalProperty name h.required h.schema

/-- The headers of a response that can be followed, by name. -/
def headers (document : Document) (response : Response) : List Resolved.Header :=
  response.headers.sorted.filterMap fun entry =>
    (document.header entry.2).toOption.map (dialect.header entry.1)

/-- The name under which the schema of a response is resolved. -/
def responseName : String := "response"

/-- A resolved response. -/
def response (document : Document) (code : String) (r : Response) : Resolved.Response where
  code
  description := r.description
  schema := (firstSchema? r.content).map fun entry => dialect.property responseName false entry.2
  contentTypes := r.content.names
  headers := dialect.headers document r
  extensions := vendorExtensions r.extensions

/-- The responses of an operation that can be followed, by code. -/
def responses (document : Document) (operation : Operation) : List Resolved.Response :=
  operation.responses.sorted.filterMap fun entry =>
    (document.response entry.2).toOption.map (dialect.response document entry.1)

/-- The property of the first successful response that has one. -/
def resultOf (responses : List Resolved.Response) : Option Property :=
  responses.findSome? fun response =>
    if response.statusClass = .success then response.schema else none

/-- The first occurrences of the names in a list. -/
def firstOccurrences (names : List String) : List String :=
  (settle (names.map fun name => (name, ()))).map Prod.fst

/-! ## Operations -/

/-- The id in a document, an empty one being none. -/
def declaredId (operation : Operation) : Option String := operation.operationId.filter (· != "")

/-- The id of an operation: the alias of the declared or synthesized one, or that one itself. -/
def operationId (aliases : Dict String) (site : OperationSite) : String :=
  let id := (declaredId site.operation).getD (synthesizeOperationId site.method.name site.path)
  (aliases.get? id).getD id

/-- The security schemes that an operation needs, by its own requirements or those of the
document. -/
def authorizations (document : Document) (operation : Operation) : List Authorization :=
  ((operation.security.or document.security).getD []).flatMap fun requirement =>
    requirement.entries.map fun entry => ⟨entry.1, entry.2⟩

/-- The tag of the operations without one. -/
def defaultTag : String := "default"

/-- The content types of an operation's body. -/
def consumed (document : Document) (site : OperationSite) : List String :=
  (successes (site.requestBody document).toList).flatMap (·.content.names)

/-- The parameters of an operation as declared, and then its body. -/
def declaredParameters (document : Document) (site : OperationSite) : List Resolved.Parameter :=
  (successes (site.parameters document)).map dialect.parameter
    ++ (successes (site.requestBody document).toList).filterMap dialect.bodyParameter

/-- The models that an operation needs. -/
def operationImports (operation : Resolved.Operation) : List String :=
  distinctSorted (((operation.parameters.map (·.schema) ++ operation.result.toList).filterMap
    Property.model?).filter (!TypeTable.isImportFree ·))

/-- The resolved operation of a site. -/
def operation (document : Document) (aliases : Dict String) (site : OperationSite) :
    Resolved.Operation :=
  let source := site.operation
  let responses := dialect.responses document source
  let consumes := consumed document site
  let settled : Resolved.Operation := Resolved.Operation.settleParameters
    { names := OperationNames.of (operationId aliases site)
      originalId := declaredId source
      path := site.path
      method := site.method
      tag := source.tags.headD defaultTag
      tags := if source.tags.isEmpty then [defaultTag] else source.tags
      summary := source.summary
      notes := source.description
      deprecated := source.deprecated.getD false
      parameters := dialect.declaredParameters document site
      responses
      result := resultOf responses
      authorizations := authorizations document source
      consumes
      produces := firstOccurrences (responses.flatMap (·.contentTypes))
      isMultipart := consumes.any (·.startsWith "multipart/")
      extensions := vendorExtensions source.extensions }
  { settled with imports := operationImports settled }

/-- The operations of a document, by path and method. -/
def operations (document : Document) (aliases : Dict String) : List Resolved.Operation :=
  document.sortedSites.map (dialect.operation document aliases)

/-! ## Reports -/

/-- What is reported when an optional schema is resolved under a name. -/
def optionalNotices (name : String) (schema : Option (Referable Schema)) : List Notice :=
  (schema.map (propertyNotices name)).getD []

/-- What is reported for the content of a body or response under a name. -/
def contentNotices (name : String) (content : Dict MediaType) : List Notice :=
  optionalNotices name ((firstSchema? content).map Prod.snd)

/-- What is reported for a header of a response. -/
def headerNotices (document : Document) (location : Location) (code : String)
    (entry : String × Referable Header) : List Notice :=
  match document.header entry.2 with
  | .ok header => optionalNotices entry.1 header.schema
  | .error e => [.skipped location (.header entry.1 code) e]

/-- What is reported for a response. -/
def responseNotices (document : Document) (location : Location)
    (entry : String × Referable Response) : List Notice :=
  match document.response entry.2 with
  | .ok response =>
    contentNotices responseName response.content
      ++ response.headers.sorted.flatMap (headerNotices document location entry.1)
  | .error e => [.skipped location (.response entry.1) e]

/-- What is reported for a parameter. -/
def parameterNotices (location : Location) : Except ReferenceError Parameter → List Notice
  | .ok parameter => optionalNotices parameter.name parameter.schema
  | .error e => [.skipped location .parameter e]

/-- What is reported for a request body. -/
def bodyNotices (location : Location) : Except ReferenceError RequestBody → List Notice
  | .ok body => contentNotices bodyName body.content
  | .error e => [.skipped location .requestBody e]

/-- What is reported when an operation is resolved. -/
def operationNotices (document : Document) (aliases : Dict String) (site : OperationSite) :
    List Notice :=
  (site.parameters document).flatMap (parameterNotices site.location)
  ++ (site.requestBody document).toList.flatMap (bodyNotices site.location)
  ++ site.operation.responses.sorted.flatMap (responseNotices document site.location)
  ++ replacementNotices (operationId aliases site) [] (dialect.declaredParameters document site)

end Dialect

end OpenApi
