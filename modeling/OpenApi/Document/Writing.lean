import OpenApi.Document.Basic

/-!
# Writing a document

The JSON value of each object of a document. Members that are absent or empty are left out, the keys
that no rule knows stand at the end.

## Main definitions

* `Referable.toJson`: a reference or an object.
* `Schema.toJson`, `Parameter.toJson`, …, `Document.toJson`: the objects.
-/
namespace OpenApi

open Json (member memberIf memberUnlessNil string)

/-- A map member that is there unless the map is empty. -/
def Json.memberUnlessEmpty {α : Type} (name : String) (write : α → Json) (d : Dict α) :
    List (String × Json) :=
  if d.isEmpty then [] else [(name, .ofDict write d)]

/-- A whole number that is not negative. -/
def Json.count (n : Nat) : Json := .int n

/-- A list. -/
def Json.ofList {α : Type} (write : α → Json) (items : List α) : Json := .array (items.map write)

/-- The object of a reference. -/
def referenceJson (path : String) : Json := .object [("$ref", .string path)]

/-- The value of a reference or an object. -/
def Referable.toJson {α : Type} (write : α → Json) : Referable α → Json
  | .reference path => referenceJson path
  | .inline value => write value

/-! ## Schemas -/

/-- The value of a type. -/
def SchemaType.toJson (type : SchemaType) : Json := .string type.name

/-- The value of the types of a schema. -/
def TypeSet.toJson : TypeSet → Json
  | .single type => type.toJson
  | .several types => .ofList SchemaType.toJson types

/-- The value of an exclusive bound. -/
def ExclusiveBound.toJson : ExclusiveBound → Json
  | .flag strict => .bool strict
  | .limit value => .double value

/-- The value of a discriminator. -/
def Discriminator.toJson (d : Discriminator) : Json :=
  .object (member "propertyName" (.string d.propertyName)
    ++ Json.memberUnlessEmpty "mapping" string d.mapping)

mutual

/-- The value of a schema. -/
def Schema.toJson : Schema → Json
  | ⟨k, properties, additionalProperties, items, allOf, oneOf, anyOf⟩ => .object (
      memberIf "type" TypeSet.toJson k.type
      ++ memberIf "format" string k.format
      ++ memberIf "title" string k.title
      ++ memberIf "description" string k.description
      ++ memberIf "default" id k.defaultValue
      ++ memberIf "nullable" .bool k.nullable
      ++ memberIf "deprecated" .bool k.deprecated
      ++ memberUnlessNil "properties" .object (propertiesJson properties)
      ++ memberUnlessNil "required" Json.strings k.required
      ++ (match additionalProperties with
        | some (.allowed flag) => member "additionalProperties" (.bool flag)
        | some (.values schema) => member "additionalProperties" (schemaJson schema)
        | none => [])
      ++ memberIf "minProperties" Json.count k.minProperties
      ++ memberIf "maxProperties" Json.count k.maxProperties
      ++ (match items with
        | some schema => member "items" (schemaJson schema)
        | none => [])
      ++ memberUnlessNil "allOf" .array (schemasJson allOf)
      ++ memberUnlessNil "oneOf" .array (schemasJson oneOf)
      ++ memberUnlessNil "anyOf" .array (schemasJson anyOf)
      ++ memberIf "discriminator" Discriminator.toJson k.discriminator
      ++ memberUnlessNil "enum" .array k.enumValues
      ++ memberIf "minimum" .double k.minimum
      ++ memberIf "maximum" .double k.maximum
      ++ memberIf "exclusiveMinimum" ExclusiveBound.toJson k.exclusiveMinimum
      ++ memberIf "exclusiveMaximum" ExclusiveBound.toJson k.exclusiveMaximum
      ++ memberIf "multipleOf" .double k.multipleOf
      ++ memberIf "minLength" Json.count k.minLength
      ++ memberIf "maxLength" Json.count k.maxLength
      ++ memberIf "pattern" string k.pattern
      ++ memberIf "minItems" Json.count k.minItems
      ++ memberIf "maxItems" Json.count k.maxItems
      ++ memberIf "uniqueItems" .bool k.uniqueItems
      ++ memberIf "readOnly" .bool k.readOnly
      ++ memberIf "writeOnly" .bool k.writeOnly
      ++ memberIf "example" id k.exampleValue
      ++ k.extensions.entries)
termination_by structural schema => schema

/-- The value of a reference or a schema. -/
def schemaJson : Referable Schema → Json
  | .reference path => referenceJson path
  | .inline schema => schema.toJson
termination_by structural schema => schema

/-- The values of a list of schemas. -/
def schemasJson : List (Referable Schema) → List Json
  | [] => []
  | schema :: rest => schemaJson schema :: schemasJson rest
termination_by structural schemas => schemas

/-- The members of a map of schemas. -/
def propertiesJson : List (String × Referable Schema) → List (String × Json)
  | [] => []
  | (name, schema) :: rest => (name, schemaJson schema) :: propertiesJson rest
termination_by structural properties => properties

end

/-! ## Parts of an operation -/

/-- The value of a parameter. -/
def Parameter.toJson (p : Parameter) : Json :=
  .object (member "name" (.string p.name)
    ++ member "in" (.string p.location.name)
    ++ memberIf "description" string p.description
    ++ member "required" (.bool p.required)
    ++ memberIf "deprecated" .bool p.deprecated
    ++ memberIf "schema" schemaJson p.schema
    ++ memberIf "style" string p.style
    ++ memberIf "explode" .bool p.explode
    ++ memberIf "example" id p.exampleValue
    ++ p.extensions.entries)

/-- The value of a media type. -/
def MediaType.toJson (m : MediaType) : Json :=
  .object (memberIf "schema" schemaJson m.schema ++ memberIf "example" id m.exampleValue)

/-- The value of a request body. -/
def RequestBody.toJson (b : RequestBody) : Json :=
  .object (memberIf "description" string b.description
    ++ member "content" (.ofDict MediaType.toJson b.content)
    ++ member "required" (.bool b.required))

/-- The value of a header. -/
def Header.toJson (h : Header) : Json :=
  .object (memberIf "description" string h.description
    ++ member "required" (.bool h.required)
    ++ memberIf "deprecated" .bool h.deprecated
    ++ memberIf "schema" schemaJson h.schema)

/-- The value of a response. -/
def Response.toJson (r : Response) : Json :=
  .object (member "description" (.string r.description)
    ++ Json.memberUnlessEmpty "content" MediaType.toJson r.content
    ++ Json.memberUnlessEmpty "headers" (Referable.toJson Header.toJson) r.headers
    ++ r.extensions.entries)

/-! ## Security -/

/-- The value of an OAuth flow. -/
def OAuthFlow.toJson (f : OAuthFlow) : Json :=
  .object (memberIf "authorizationUrl" string f.authorizationUrl
    ++ memberIf "tokenUrl" string f.tokenUrl
    ++ memberIf "refreshUrl" string f.refreshUrl
    ++ member "scopes" (.ofDict string f.scopes))

/-- The value of the OAuth flows. -/
def OAuthFlows.toJson (f : OAuthFlows) : Json :=
  .object (memberIf "implicit" OAuthFlow.toJson f.implicit
    ++ memberIf "password" OAuthFlow.toJson f.password
    ++ memberIf "clientCredentials" OAuthFlow.toJson f.clientCredentials
    ++ memberIf "authorizationCode" OAuthFlow.toJson f.authorizationCode)

/-- The value of a security scheme. -/
def SecurityScheme.toJson (s : SecurityScheme) : Json :=
  .object (member "type" (.string s.type.name)
    ++ memberIf "description" string s.description
    ++ memberIf "name" string s.name
    ++ memberIf "in" (string ·.name) s.location
    ++ memberIf "scheme" string s.scheme
    ++ memberIf "bearerFormat" string s.bearerFormat
    ++ memberIf "flows" OAuthFlows.toJson s.flows
    ++ memberIf "openIdConnectUrl" string s.openIdConnectUrl
    ++ s.extensions.entries)

/-- The value of a security requirement. -/
def SecurityRequirement.toJson (r : SecurityRequirement) : Json := .ofDict Json.strings r

/-! ## Operations -/

/-- The value of an operation. -/
def Operation.toJson (o : Operation) : Json :=
  .object (memberIf "operationId" string o.operationId
    ++ memberIf "summary" string o.summary
    ++ memberIf "description" string o.description
    ++ memberUnlessNil "tags" Json.strings o.tags
    ++ memberUnlessNil "parameters" (.ofList (Referable.toJson Parameter.toJson)) o.parameters
    ++ memberIf "requestBody" (Referable.toJson RequestBody.toJson) o.requestBody
    ++ Json.memberUnlessEmpty "responses" (Referable.toJson Response.toJson) o.responses
    ++ memberIf "deprecated" .bool o.deprecated
    ++ memberIf "security" (.ofList SecurityRequirement.toJson) o.security
    ++ o.extensions.entries)

/-- The value of a path item. -/
def PathItem.toJson (i : PathItem) : Json :=
  .object (memberIf "summary" string i.summary
    ++ memberIf "description" string i.description
    ++ memberUnlessNil "parameters" (.ofList (Referable.toJson Parameter.toJson)) i.parameters
    ++ memberIf "get" Operation.toJson i.get
    ++ memberIf "put" Operation.toJson i.put
    ++ memberIf "post" Operation.toJson i.post
    ++ memberIf "delete" Operation.toJson i.delete
    ++ memberIf "options" Operation.toJson i.options
    ++ memberIf "head" Operation.toJson i.head
    ++ memberIf "patch" Operation.toJson i.patch
    ++ memberIf "trace" Operation.toJson i.trace)

/-! ## The whole -/

/-- The value of a contact. -/
def Contact.toJson (c : Contact) : Json :=
  .object (memberIf "name" string c.name ++ memberIf "url" string c.url
    ++ memberIf "email" string c.email)

/-- The value of a license. -/
def License.toJson (l : License) : Json :=
  .object (member "name" (.string l.name) ++ memberIf "url" string l.url)

/-- The value of the general information. -/
def Info.toJson (i : Info) : Json :=
  .object (member "title" (.string i.title)
    ++ memberIf "description" string i.description
    ++ member "version" (.string i.version)
    ++ memberIf "termsOfService" string i.termsOfService
    ++ memberIf "contact" Contact.toJson i.contact
    ++ memberIf "license" License.toJson i.license)

/-- The value of a tag. -/
def Tag.toJson (t : Tag) : Json :=
  .object (member "name" (.string t.name) ++ memberIf "description" string t.description)

/-- The value of a server variable. -/
def ServerVariable.toJson (v : ServerVariable) : Json :=
  .object (member "default" (.string v.defaultValue)
    ++ memberIf "description" string v.description
    ++ memberUnlessNil "enum" Json.strings v.enumValues)

/-- The value of a server. -/
def Server.toJson (s : Server) : Json :=
  .object (member "url" (.string s.url)
    ++ memberIf "description" string s.description
    ++ Json.memberUnlessEmpty "variables" ServerVariable.toJson s.placeholders)

/-- The value of the components. -/
def Components.toJson (c : Components) : Json :=
  .object (Json.memberUnlessEmpty "schemas" schemaJson c.schemas
    ++ Json.memberUnlessEmpty "responses" (Referable.toJson Response.toJson) c.responses
    ++ Json.memberUnlessEmpty "parameters" (Referable.toJson Parameter.toJson) c.parameters
    ++ Json.memberUnlessEmpty "requestBodies" (Referable.toJson RequestBody.toJson)
      c.requestBodies
    ++ Json.memberUnlessEmpty "headers" (Referable.toJson Header.toJson) c.headers
    ++ Json.memberUnlessEmpty "securitySchemes" SecurityScheme.toJson c.securitySchemes)

/-- The value of a document. -/
def Document.toJson (d : Document) : Json :=
  .object (member "openapi" (.string d.openapi)
    ++ member "info" d.info.toJson
    ++ memberUnlessNil "servers" (.ofList Server.toJson) d.servers
    ++ Json.memberUnlessEmpty "paths" PathItem.toJson d.paths
    ++ memberIf "components" Components.toJson d.components
    ++ memberUnlessNil "tags" (.ofList Tag.toJson) d.tags
    ++ memberIf "security" (.ofList SecurityRequirement.toJson) d.security)

end OpenApi
