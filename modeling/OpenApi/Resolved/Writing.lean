import OpenApi.Document.Writing
import OpenApi.Resolved.Api

/-!
# Writing resolved APIs

The JSON values of resolved objects. Members that are absent are left out; vendor extensions are
left out when there are none.

## Main definitions

* `Property.toJson`, `Model.toJson`, `Operation.toJson`, `Api.toJson`: the objects.
-/
namespace OpenApi

open Json (member memberIf string)

namespace Resolved

/-- The member for vendor extensions. -/
def extensionsMember (extensions : Dict Json) : List (String × Json) :=
  Json.memberUnlessEmpty "vendorExtensions" id extensions

/-! ## Properties -/

/-- The value of a member of an enumeration. -/
def EnumMember.toJson (m : EnumMember) : Json :=
  .object (member "name" (.string m.name) ++ member "value" (.string m.value)
    ++ member "literal" m.literal)

/-- The members of an enumeration. -/
def Enumeration.toMembers (e : Enumeration) : List (String × Json) :=
  member "enumName" (.string e.name) ++ member "base" (.string e.base.name)
    ++ member "values" (.ofList EnumMember.toJson e.members)

/-- The value of constraints. -/
def Limits.toJson (l : Limits) : Json :=
  .object (memberIf "pattern" string l.pattern
    ++ memberIf "minimum" .double l.minimum
    ++ memberIf "maximum" .double l.maximum
    ++ member "exclusiveMinimum" (.bool l.exclusiveMinimum)
    ++ member "exclusiveMaximum" (.bool l.exclusiveMaximum)
    ++ memberIf "multipleOf" .double l.multipleOf
    ++ memberIf "minLength" Json.count l.minLength
    ++ memberIf "maxLength" Json.count l.maxLength
    ++ memberIf "minItems" Json.count l.minItems
    ++ memberIf "maxItems" Json.count l.maxItems
    ++ member "uniqueItems" (.bool l.uniqueItems)
    ++ memberIf "minProperties" Json.count l.minProperties
    ++ memberIf "maxProperties" Json.count l.maxProperties)

/-- The value of a property. -/
def Property.toJson : Property → Json
  | ⟨names, required, traits, ⟨dataType, baseType, kind, format, isPrimitive⟩⟩ =>
    let kindMembers := match kind with
      | .string => member "type" (.string "string")
      | .integer => member "type" (.string "integer")
      | .number => member "type" (.string "number")
      | .boolean => member "type" (.string "boolean")
      | .array items => member "type" (.string "array") ++ member "items" items.toJson
      | .map values => member "type" (.string "map") ++ member "values" values.toJson
      | .model name => member "type" (.string "modelRef") ++ member "model" (.string name)
      | .enumeration info => member "type" (.string "enum") ++ info.toMembers
      | .freeForm => member "type" (.string "freeForm")
      | .any => member "type" (.string "any")
    .object (member "baseName" (.string names.base)
      ++ member "name" (.string names.identifier)
      ++ member "nameInCamelCase" (.string names.camel)
      ++ member "nameInPascalCase" (.string names.pascal)
      ++ member "nameInSnakeCase" (.string names.snake)
      ++ member "nameInLowerCase" (.string names.small)
      ++ member "dataType" (.string dataType)
      ++ member "baseType" (.string baseType)
      ++ memberIf "openApiType" string traits.openApiType
      ++ memberIf "dataFormat" string traits.dataFormat
      ++ member "kind" (.object kindMembers)
      ++ memberIf "format" (string ·.name) format
      ++ member "isPrimitiveType" (.bool isPrimitive)
      ++ member "required" (.bool required)
      ++ member "nullable" (.bool traits.nullable)
      ++ member "deprecated" (.bool traits.deprecated)
      ++ member "readOnly" (.bool traits.readOnly)
      ++ member "writeOnly" (.bool traits.writeOnly)
      ++ memberIf "title" string traits.title
      ++ memberIf "description" string traits.description
      ++ memberIf "example" id traits.exampleValue
      ++ memberIf "defaultValue" id traits.defaultValue
      ++ member "validation" traits.limits.toJson
      ++ member "hasValidation" (.bool traits.hasLimits)
      ++ extensionsMember traits.extensions)
termination_by structural property => property

/-! ## Models -/

/-- The value of a kind of model. -/
def ModelKind.toJson (kind : ModelKind) : Json :=
  .object (member "type" (.string kind.name) ++
    match kind with
    | .array items => member "items" items.toJson
    | .enumeration info => info.toMembers
    | .primitive scalar => member "scalar" (.string scalar.name)
    | .object | .untyped => [])

/-- The value of an entry of a discriminator. -/
def MappedModel.toJson (m : MappedModel) : Json :=
  .object (member "mappingName" (.string m.value) ++ member "modelName" (.string m.model))

/-- The value of a selection. -/
def DiscriminatorMapping.toJson : DiscriminatorMapping → Json
  | .absent => .object (member "source" (.string "absent"))
  | .explicit entries => .object (member "source" (.string "explicit")
      ++ member "entries" (.ofList MappedModel.toJson entries))
  | .inferred entries => .object (member "source" (.string "inferred")
      ++ member "entries" (.ofList MappedModel.toJson entries))

/-- The value of a discriminator. -/
def Discriminator.toJson (d : Discriminator) : Json :=
  .object (member "propertyName" (.string d.propertyName) ++ member "mapping" d.mapping.toJson)

/-- The value of a model. -/
def Model.toJson (m : Model) : Json :=
  .object (member "name" (.string m.name)
    ++ member "className" (.string m.className)
    ++ member "classVarName" (.string m.fieldName)
    ++ member "classFilename" (.string m.className)
    ++ memberIf "title" string m.title
    ++ memberIf "description" string m.description
    ++ member "kind" m.kind.toJson
    ++ member "dataType" (.string m.dataType)
    ++ member "vars" (.ofList Property.toJson m.vars)
    ++ member "mandatory" (.strings m.mandatory)
    ++ memberIf "additionalProperties" Property.toJson m.additionalProperties
    ++ memberIf "parent" string m.parent
    ++ member "allOf" (.strings m.allOf)
    ++ member "oneOf" (.strings m.oneOf)
    ++ member "oneOfModels" (.strings m.oneOfModels)
    ++ member "anyOf" (.strings m.anyOf)
    ++ memberIf "discriminator" Discriminator.toJson m.discriminator
    ++ member "imports" (.strings m.imports)
    ++ member "nullable" (.bool m.nullable)
    ++ member "deprecated" (.bool m.deprecated)
    ++ member "validation" m.limits.toJson
    ++ extensionsMember m.extensions)

/-! ## Operations -/

/-- The value of a parameter. -/
def Parameter.toJson (p : Parameter) : Json :=
  .object (member "baseName" (.string p.names.base)
    ++ member "paramName" (.string p.names.identifier)
    ++ member "nameInCamelCase" (.string p.names.camel)
    ++ member "nameInPascalCase" (.string p.names.pascal)
    ++ member "nameInSnakeCase" (.string p.names.snake)
    ++ member "nameInLowerCase" (.string p.names.small)
    ++ member "location" (.string p.place.name)
    ++ member "required" (.bool p.required)
    ++ member "deprecated" (.bool p.deprecated)
    ++ memberIf "description" string p.description
    ++ memberIf "style" string p.style
    ++ member "explode" (.bool p.explode)
    ++ memberIf "example" id p.exampleValue
    ++ memberIf "contentType" string p.contentType
    ++ member "schema" p.schema.toJson
    ++ extensionsMember p.extensions)

/-- The value of a header. -/
def Header.toJson (h : Header) : Json :=
  .object (member "name" (.string h.name)
    ++ memberIf "description" string h.description
    ++ member "required" (.bool h.required)
    ++ member "schema" h.schema.toJson)

/-- The value of a response. -/
def Response.toJson (r : Response) : Json :=
  .object (member "code" (.string r.code)
    ++ member "statusClass" (.string r.statusClass.name)
    ++ member "description" (.string r.description)
    ++ memberIf "schema" Property.toJson r.schema
    ++ member "contentTypes" (.strings r.contentTypes)
    ++ member "headers" (.ofList Header.toJson r.headers)
    ++ extensionsMember r.extensions)

/-- The value of an authorization. -/
def Authorization.toJson (a : Authorization) : Json :=
  .object (member "name" (.string a.name) ++ member "scopes" (.strings a.scopes))

/-- The list of parameters. -/
def parametersJson (parameters : List Parameter) : Json := .ofList Parameter.toJson parameters

/-- The value of an operation. -/
def Operation.toJson (o : Operation) : Json :=
  .object (member "operationId" (.string o.names.id)
    ++ memberIf "operationIdOriginal" string o.originalId
    ++ member "operationIdCamelCase" (.string o.names.camel)
    ++ member "operationIdSnakeCase" (.string o.names.snake)
    ++ member "operationIdLowerCase" (.string o.names.small)
    ++ member "nickname" (.string o.names.nickname)
    ++ member "path" (.string o.path)
    ++ member "httpMethod" (.string o.method.name)
    ++ member "tag" (.string o.tag)
    ++ member "tags" (.strings o.tags)
    ++ memberIf "summary" string o.summary
    ++ memberIf "notes" string o.notes
    ++ member "deprecated" (.bool o.deprecated)
    ++ member "allParams" (parametersJson o.parameters)
    ++ member "pathParams" (parametersJson o.buckets.path)
    ++ member "queryParams" (parametersJson o.buckets.query)
    ++ member "headerParams" (parametersJson o.buckets.header)
    ++ member "cookieParams" (parametersJson o.buckets.cookie)
    ++ memberIf "bodyParam" Parameter.toJson o.buckets.body
    ++ member "requiredParams" (parametersJson o.buckets.required)
    ++ member "optionalParams" (parametersJson o.buckets.optional)
    ++ member "responses" (.ofList Response.toJson o.responses)
    ++ memberIf "returnProperty" Property.toJson o.result
    ++ member "authMethods" (.ofList Authorization.toJson o.authorizations)
    ++ member "consumes" (.strings o.consumes)
    ++ member "produces" (.strings o.produces)
    ++ member "isMultipart" (.bool o.isMultipart)
    ++ member "imports" (.strings o.imports)
    ++ extensionsMember o.extensions)

end Resolved

/-! ## The whole -/

/-- The value of the forms of a name. -/
def NameForms.toJson (n : NameForms) : Json :=
  .object (member "original" (.string n.original)
    ++ member "camelCase" (.string n.camel)
    ++ member "pascalCase" (.string n.pascal)
    ++ member "snakeCase" (.string n.snake)
    ++ member "lowerCase" (.string n.small))

namespace Resolved

/-- The members of a way to use the authorization header. -/
def HttpScheme.toJson : HttpScheme → Json
  | .basic => .object (member "scheme" (.string "basic"))
  | .bearer format => .object (member "scheme" (.string "bearer")
      ++ memberIf "bearerFormat" string format)
  | .other name => .object (member "scheme" (.string "other") ++ member "name" (.string name))

/-- The value of a scope. -/
def Scope.toJson (s : Scope) : Json :=
  .object (member "scope" (.string s.name) ++ member "description" (.string s.description))

/-- The value of what a security scheme needs. -/
def SecurityKind.toJson : SecurityKind → Json
  | .apiKey parameter location => .object (member "type" (.string "apiKey")
      ++ member "keyParamName" (.string parameter)
      ++ member "location" (.string location.name))
  | .http scheme => .object (member "type" (.string "http") ++ member "scheme" scheme.toJson)
  | .oauth2 flow authorizationUrl tokenUrl refreshUrl scopes =>
    .object (member "type" (.string "oauth2")
      ++ member "flow" (.ofOption (string ·.name) flow)
      ++ member "authorizationUrl" (.ofOption string authorizationUrl)
      ++ member "tokenUrl" (.ofOption string tokenUrl)
      ++ member "refreshUrl" (.ofOption string refreshUrl)
      ++ member "scopes" (.ofList Scope.toJson scopes))
  | .openIdConnect url => .object (member "type" (.string "openIdConnect")
      ++ member "openIdConnectUrl" (.ofOption string url))
  | .mutualTls => .object (member "type" (.string "mutualTLS"))

/-- The value of a security scheme. -/
def SecurityScheme.toJson (s : SecurityScheme) : Json :=
  .object (member "name" (.string s.name)
    ++ memberIf "description" string s.description
    ++ member "kind" s.kind.toJson
    ++ extensionsMember s.extensions)

/-- The value of the general information. -/
def Info.toJson (i : Info) : Json :=
  .object (member "title" (.string i.title)
    ++ memberIf "description" string i.description
    ++ member "version" (.string i.version)
    ++ memberIf "licenseName" string i.licenseName
    ++ memberIf "licenseUrl" string i.licenseUrl
    ++ memberIf "contactEmail" string i.contactEmail)

/-- The value of a server. -/
def Server.toJson (s : Server) : Json :=
  .object (member "url" (.string s.url) ++ memberIf "description" string s.description)

/-- The value of a group of operations. -/
def Group.toJson (g : Group) : Json :=
  .object (member "tag" g.tag.toJson
    ++ member "className" (.string g.className)
    ++ member "operations" (.ofList Operation.toJson g.operations))

/-- The value of a resolved API. -/
def Api.toJson (a : Api) : Json :=
  .object (member "info" a.info.toJson
    ++ member "servers" (.ofList Server.toJson a.servers)
    ++ member "models" (.ofList Model.toJson a.models)
    ++ member "operationGroups" (.ofList Group.toJson a.groups)
    ++ member "securitySchemes" (.ofList SecurityScheme.toJson a.securitySchemes))

end Resolved

end OpenApi
