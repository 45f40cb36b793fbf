import OpenApi.Document.Basic
import OpenApi.Node.Reading

/-!
# Reading a document

The readers of the objects of a document. Each object is a `Record`: the value that reading starts
from and its members. Where a reference may stand for an object, the node is typed first; a mapping
with exactly one `$ref` that is a text is a reference, and anything else is read as the object.

## Main definitions

* `readReferable`: a reference or an object.
* `Schema.read`, `Parameter.read`, `Response.read`, …: the parts of a document.
* `Document.read`: the whole.
-/
namespace OpenApi

open Node (asText asFlag asCount asDouble asList asDict asChoice)

/-! ## References -/

/-- A record that is only a path. -/
def referenceRecord : Record String where
  blank := ""
  members := [.required "$ref" asText fun path _ => path]

/-- The path of a node that is a reference. -/
def Node.referencePath? : Node → Option String
  | .mapping entries => (referenceRecord.readEntries entries [] "").toOption
  | _ => none

/-- A reference, or what `read` makes of the typed node. -/
def readReferable {α : Type} (read : Node → Decoded α) (node : Node) : Decoded (Referable α) := do
  let node ← node.typed
  match node.referencePath? with
  | some path => return .reference path
  | none => match read node with
    | .ok value => return .inline value
    | .error _ => .error .shape

/-! ## Schemas -/

/-- One type, or a list of types. -/
def TypeSet.read (node : Node) : Decoded TypeSet :=
  match node.asChoice SchemaType.byName with
  | .ok type => .ok (.single type)
  | .error _ => .several <$> node.asList (asChoice SchemaType.byName)

/-- A flag, or a number. -/
def ExclusiveBound.read : Node → Decoded ExclusiveBound
  | .bool strict => .ok (.flag strict)
  | node => .limit <$> node.asDouble

/-- The members of a discriminator. -/
def Discriminator.record : Record Discriminator where
  blank := { propertyName := "" }
  members :=
    [.required "propertyName" asText fun x d => { d with propertyName := x },
      .defaulted "mapping" (asDict asText) fun x d => { d with mapping := x }]

/-- A flag, or a schema. -/
def AdditionalProperties.read (readSchema : Node → Decoded (Referable Schema)) :
    Node → Decoded (AdditionalProperties Schema)
  | .bool flag => .ok (.allowed flag)
  | node => .values <$> readSchema node

/-- The members of a schema; `readSchema` reads the schemas that it holds. -/
def Schema.record (readSchema : Node → Decoded (Referable Schema)) : Record Schema where
  blank := {}
  members :=
    [.optional "type" TypeSet.read fun x s => { s with type := x },
      .optional "format" asText fun x s => { s with format := x },
      .optional "title" asText fun x s => { s with title := x },
      .optional "description" asText fun x s => { s with description := x },
      .optional "default" Node.json fun x s => { s with defaultValue := x },
      .optional "nullable" asFlag fun x s => { s with nullable := x },
      .optional "deprecated" asFlag fun x s => { s with deprecated := x },
      .defaulted "properties" (asDict readSchema) fun x s => { s with properties := x.entries },
      .defaulted "required" (asList asText) fun x s => { s with required := x },
      .optional "additionalProperties" (AdditionalProperties.read readSchema) fun x s =>
        { s with additionalProperties := x },
      .optional "minProperties" asCount fun x s => { s with minProperties := x },
      .optional "maxProperties" asCount fun x s => { s with maxProperties := x },
      .optional "items" readSchema fun x s => { s with items := x },
      .defaulted "allOf" (asList readSchema) fun x s => { s with allOf := x },
      .defaulted "oneOf" (asList readSchema) fun x s => { s with oneOf := x },
      .defaulted "anyOf" (asList readSchema) fun x s => { s with anyOf := x },
      .optional "discriminator" Discriminator.record.read fun x s =>
        { s with discriminator := x },
      .defaulted "enum" (asList Node.json) fun x s => { s with enumValues := x },
      .optional "minimum" asDouble fun x s => { s with minimum := x },
      .optional "maximum" asDouble fun x s => { s with maximum := x },
      .optional "exclusiveMinimum" ExclusiveBound.read fun x s => { s with exclusiveMinimum := x },
      .optional "exclusiveMaximum" ExclusiveBound.read fun x s => { s with exclusiveMaximum := x },
      .optional "multipleOf" asDouble fun x s => { s with multipleOf := x },
      .optional "minLength" asCount fun x s => { s with minLength := x },
      .optional "maxLength" asCount fun x s => { s with maxLength := x },
      .optional "pattern" asText fun x s => { s with pattern := x },
      .optional "minItems" asCount fun x s => { s with minItems := x },
      .optional "maxItems" asCount fun x s => { s with maxItems := x },
      .optional "uniqueItems" asFlag fun x s => { s with uniqueItems := x },
      .optional "readOnly" asFlag fun x s => { s with readOnly := x },
      .optional "writeOnly" asFlag fun x s => { s with writeOnly := x },
      .optional "example" Node.json fun x s => { s with exampleValue := x }]
  keep := some fun name value s => { s with extensions := s.extensions.insert name value }

/-- Read a schema whose schemas stand at most `room` deep in each other. -/
def Schema.readWithin : (room : Nat) → Node → Decoded (Referable Schema)
  | 0 => fun _ => .error .malformed
  | room + 1 => readReferable (Schema.record (Schema.readWithin room)).read

/-- The number of collections that any reader follows into each other. -/
def greatestDepth : Nat := 128

/-- Read a schema. -/
def Schema.read : Node → Decoded (Referable Schema) := Schema.readWithin (greatestDepth + 1)

/-! ## Parts of an operation -/

/-- The members of a parameter. -/
def Parameter.record : Record Parameter where
  blank := { name := "", location := .query }
  members :=
    [.required "name" asText fun x p => { p with name := x },
      .required "in" (asChoice ParameterLocation.byName) fun x p => { p with location := x },
      .optional "description" asText fun x p => { p with description := x },
      .defaulted "required" asFlag fun x p => { p with required := x },
      .optional "deprecated" asFlag fun x p => { p with deprecated := x },
      .optional "schema" Schema.read fun x p => { p with schema := x },
      .optional "style" asText fun x p => { p with style := x },
      .optional "explode" asFlag fun x p => { p with explode := x },
      .optional "example" Node.json fun x p => { p with exampleValue := x }]
  keep := some fun name value p => { p with extensions := p.extensions.insert name value }

/-- Read a parameter. -/
def Parameter.read : Node → Decoded (Referable Parameter) := readReferable Parameter.record.read

/-- The members of a media type. -/
def MediaType.record : Record MediaType where
  blank := {}
  members :=
    [.optional "schema" Schema.read fun x m => { m with schema := x },
      .optional "example" Node.json fun x m => { m with exampleValue := x }]

/-- The members of a request body. -/
def RequestBody.record : Record RequestBody where
  blank := {}
  members :=
    [.optional "description" asText fun x b => { b with description := x },
      .required "content" (asDict MediaType.record.read) fun x b => { b with content := x },
      .defaulted "required" asFlag fun x b => { b with required := x }]

/-- Read a request body. -/
def RequestBody.read : Node → Decoded (Referable RequestBody) :=
  readReferable RequestBody.record.read

/-- The members of a header. -/
def Header.record : Record Header where
  blank := {}
  members :=
    [.optional "description" asText fun x h => { h with description := x },
      .defaulted "required" asFlag fun x h => { h with required := x },
      .optional "deprecated" asFlag fun x h => { h with deprecated := x },
      .optional "schema" Schema.read fun x h => { h with schema := x }]

/-- Read a header. -/
def Header.read : Node → Decoded (Referable Header) := readReferable Header.record.read

/-- The members of a response. -/
def Response.record : Record Response where
  blank := {}
  members :=
    [.defaulted "description" asText fun x r => { r with description := x },
      .defaulted "content" (asDict MediaType.record.read) fun x r => { r with content := x },
      .defaulted "headers" (asDict Header.read) fun x r => { r with headers := x }]
  keep := some fun name value r => { r with extensions := r.extensions.insert name value }

/-- Read a response. -/
def Response.read : Node → Decoded (Referable Response) := readReferable Response.record.read

/-! ## Security -/

/-- The members of an OAuth flow. -/
def OAuthFlow.record : Record OAuthFlow where
  blank := {}
  members :=
    [.optional "authorizationUrl" asText fun x f => { f with authorizationUrl := x },
      .optional "tokenUrl" asText fun x f => { f with tokenUrl := x },
      .optional "refreshUrl" asText fun x f => { f with refreshUrl := x },
      .defaulted "scopes" (asDict asText) fun x f => { f with scopes := x }]

/-- The members of the OAuth flows. -/
def OAuthFlows.record : Record OAuthFlows where
  blank := {}
  members :=
    [.optional "implicit" OAuthFlow.record.read fun x f => { f with implicit := x },
      .optional "password" OAuthFlow.record.read fun x f => { f with password := x },
      .optional "clientCredentials" OAuthFlow.record.read fun x f =>
        { f with clientCredentials := x },
      .optional "authorizationCode" OAuthFlow.record.read fun x f =>
        { f with authorizationCode := x }]

/-- The members of a security scheme. -/
def SecurityScheme.record : Record SecurityScheme where
  blank := { type := .http }
  members :=
    [.required "type" (asChoice SecuritySchemeType.byName) fun x s => { s with type := x },
      .optional "description" asText fun x s => { s with description := x },
      .optional "name" asText fun x s => { s with name := x },
      .optional "in" (asChoice KeyLocation.byName) fun x s => { s with location := x },
      .optional "scheme" asText fun x s => { s with scheme := x },
      .optional "bearerFormat" asText fun x s => { s with bearerFormat := x },
      .optional "flows" OAuthFlows.record.read fun x s => { s with flows := x },
      .optional "openIdConnectUrl" asText fun x s => { s with openIdConnectUrl := x }]
  keep := some fun name value s => { s with extensions := s.extensions.insert name value }

/-- Read a security requirement. -/
def SecurityRequirement.read : Node → Decoded SecurityRequirement := asDict (asList asText)

/-! ## Operations -/

/-- The key of a response: a status code, or a text. -/
inductive StatusKey where
  | code (number : Nat)
  | text (name : String)
deriving DecidableEq, Repr

/-- The text of a status key. -/
def StatusKey.toText : StatusKey → String
  | code number => toString number
  | text name => name

/-- Read a status key; a whole number is a code. -/
def StatusKey.read (node : Node) : Decoded StatusKey := do
  match ← node.typed with
  | .text name => return .text name
  | .number (.int number) => if 0 ≤ number then return .code number.toNat else .error .shape
  | _ => .error .shape

/-- Read the responses of an operation. Keys that repeat are settled among the codes and among the
texts first, and then all by their text. -/
def readResponses (node : Node) : Decoded (Dict (Referable Response)) :=
  match node.content with
  | .mapping entries => do
    let responses ← entries.mapM fun entry => do
      let key ← StatusKey.read entry.1
      return (key, ← Response.read entry.2)
    return Dict.ofEntries ((settle responses).map fun entry => (entry.1.toText, entry.2))
  | node => if node.isEmptyCollection then .ok ∅ else .error node.unexpected

/-- The members of an operation. -/
def Operation.record : Record Operation where
  blank := {}
  members :=
    [.optional "operationId" asText fun x o => { o with operationId := x },
      .optional "summary" asText fun x o => { o with summary := x },
      .optional "description" asText fun x o => { o with description := x },
      .defaulted "tags" (asList asText) fun x o => { o with tags := x },
      .defaulted "parameters" (asList Parameter.read) fun x o => { o with parameters := x },
      .optional "requestBody" RequestBody.read fun x o => { o with requestBody := x },
      .defaulted "responses" readResponses fun x o => { o with responses := x },
      .optional "deprecated" asFlag fun x o => { o with deprecated := x },
      .optional "security" (asList SecurityRequirement.read) fun x o => { o with security := x }]
  keep := some fun name value o => { o with extensions := o.extensions.insert name value }

/-- The members of a path item. -/
def PathItem.record : Record PathItem where
  blank := {}
  members :=
    [.optional "summary" asText fun x i => { i with summary := x },
      .optional "description" asText fun x i => { i with description := x },
      .defaulted "parameters" (asList Parameter.read) fun x i => { i with parameters := x },
      .optional "get" Operation.record.read fun x i => { i with get := x },
      .optional "put" Operation.record.read fun x i => { i with put := x },
      .optional "post" Operation.record.read fun x i => { i with post := x },
      .optional "delete" Operation.record.read fun x i => { i with delete := x },
      .optional "options" Operation.record.read fun x i => { i with options := x },
      .optional "head" Operation.record.read fun x i => { i with head := x },
      .optional "patch" Operation.record.read fun x i => { i with patch := x },
      .optional "trace" Operation.record.read fun x i => { i with trace := x }]

/-! ## The whole -/

/-- The members of a contact. -/
def Contact.record : Record Contact where
  blank := {}
  members :=
    [.optional "name" asText fun x c => { c with name := x },
      .optional "url" asText fun x c => { c with url := x },
      .optional "email" asText fun x c => { c with email := x }]

/-- The members of a license. -/
def License.record : Record License where
  blank := { name := "" }
  members :=
    [.required "name" asText fun x l => { l with name := x },
      .optional "url" asText fun x l => { l with url := x }]

/-- The members of the general information. -/
def Info.record : Record Info where
  blank := { title := "", version := "" }
  members :=
    [.required "title" asText fun x i => { i with title := x },
      .optional "description" asText fun x i => { i with description := x },
      .required "version" asText fun x i => { i with version := x },
      .optional "termsOfService" asText fun x i => { i with termsOfService := x },
      .optional "contact" Contact.record.read fun x i => { i with contact := x },
      .optional "license" License.record.read fun x i => { i with license := x }]

/-- The members of a tag. -/
def Tag.record : Record Tag where
  blank := { name := "" }
  members :=
    [.required "name" asText fun x t => { t with name := x },
      .optional "description" asText fun x t => { t with description := x }]

/-- The members of a server variable. -/
def ServerVariable.record : Record ServerVariable where
  blank := { defaultValue := "" }
  members :=
    [.required "default" asText fun x v => { v with defaultValue := x },
      .optional "description" asText fun x v => { v with description := x },
      .defaulted "enum" (asList asText) fun x v => { v with enumValues := x }]

/-- The members of a server. -/
def Server.record : Record Server where
  blank := { url := "" }
  members :=
    [.required "url" asText fun x s => { s with url := x },
      .optional "description" asText fun x s => { s with description := x },
      .defaulted "variables" (asDict ServerVariable.record.read) fun x s =>
        { s with placeholders := x }]

/-- The members of the components. -/
def Components.record : Record Components where
  blank := {}
  members :=
    [.defaulted "schemas" (asDict Schema.read) fun x c => { c with schemas := x },
      .defaulted "responses" (asDict Response.read) fun x c => { c with responses := x },
      .defaulted "parameters" (asDict Parameter.read) fun x c => { c with parameters := x },
      .defaulted "requestBodies" (asDict RequestBody.read) fun x c =>
        { c with requestBodies := x },
      .defaulted "headers" (asDict Header.read) fun x c => { c with headers := x },
      .defaulted "securitySchemes" (asDict SecurityScheme.record.read) fun x c =>
        { c with securitySchemes := x }]

/-- The members of a document. -/
def Document.record : Record Document where
  blank := { openapi := "", info := Info.record.blank }
  members :=
    [.required "openapi" asText fun x d => { d with openapi := x },
      .required "info" Info.record.read fun x d => { d with info := x },
      .defaulted "servers" (asList Server.record.read) fun x d => { d with servers := x },
      .defaulted "paths" (asDict PathItem.record.read) fun x d => { d with paths := x },
      .optional "components" Components.record.read fun x d => { d with components := x },
      .defaulted "tags" (asList Tag.record.read) fun x d => { d with tags := x },
      .optional "security" (asList SecurityRequirement.read) fun x d => { d with security := x }]

/-- Read a document. -/
def Document.read : Node → Decoded Document := Document.record.read

end OpenApi
