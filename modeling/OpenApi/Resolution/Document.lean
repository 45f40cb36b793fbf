import OpenApi.Resolution.Model
import OpenApi.Resolution.Operation
import OpenApi.Resolved.Api
import OpenApi.Settings

/-!
# Resolving a document

A document is validated, its schemas become models, its operations are grouped by tag and get
distinct ids within each group, and its security schemes are listed by name.

## Main definitions

* `ResolveOptions`: the choices of a run.
* `Document.resolve`: the resolved API.
* `Document.notices`: what is reported on the way.
* `groupByTag`: the operations of each tag.
-/
namespace OpenApi

open Resolved (Api FlowKind Group HttpScheme SecurityKind)

/-! ## Choices -/

/-- The choices of a run. -/
structure ResolveOptions where
  naming : Naming := {}
  /-- Rows added to the type table. -/
  typeMappings : Dict String := ∅
  /-- Asked before the type table. -/
  override : String → Option String → Option String := fun _ _ => none
  /-- New ids for operations. -/
  aliases : Dict String := ∅
  validation : Policy := .lenient
  /-- Set when the document has been validated already. -/
  skipValidation : Bool := false

namespace ResolveOptions

/-- The choices of a project. -/
def ofSettings (settings : Settings) : ResolveOptions where
  naming := settings.naming
  typeMappings := settings.typeMappings
  aliases := settings.aliases
  validation := settings.validation

/-- The names and types that the choices give. -/
def dialect (options : ResolveOptions) : Dialect where
  naming := options.naming
  types := { TypeTable.withRows options.typeMappings with override := options.override }

end ResolveOptions

/-! ## Groups -/

/-- The operations of each tag, by tag. -/
def groupByTag (naming : Naming) (operations : List Resolved.Operation) : List Group :=
  (distinctSorted (operations.map (·.tag))).map fun tag =>
    { tag := NameForms.of tag
      className := naming.apiName tag
      operations := operations.filter (·.tag == tag) }

/-- The group with distinct operation ids. -/
def Resolved.Group.settleIds (group : Group) : Group :=
  { group with operations := distinctIds group.operations }

/-! ## Security -/

/-- The ways to obtain a token that a scheme declares, the preferred one first. -/
def declaredFlows (flows : OAuthFlows) : List (FlowKind × OAuthFlow) :=
  [(FlowKind.authorizationCode, flows.authorizationCode), (.implicit, flows.implicit),
    (.password, flows.password), (.clientCredentials, flows.clientCredentials)].filterMap
    fun entry => entry.2.map (entry.1, ·)

/-- The way to obtain a token that a scheme offers. -/
def oauthKind (scheme : SecurityScheme) : SecurityKind :=
  match scheme.flows.bind fun flows => (declaredFlows flows).head? with
  | none => .oauth2 none none none none []
  | some (kind, flow) =>
    .oauth2 (some kind) flow.authorizationUrl flow.tokenUrl flow.refreshUrl
      (flow.scopes.sorted.map fun entry => ⟨entry.1, entry.2⟩)

/-- How a scheme uses the authorization header; its name is read without regard to case. -/
def httpScheme (scheme : SecurityScheme) : HttpScheme :=
  let name := Text.toSmall (scheme.scheme.getD "")
  if name = "basic" then .basic
  else if name = "bearer" then .bearer scheme.bearerFormat
  else .other name

/-- What a security scheme needs. -/
def securityKind (scheme : SecurityScheme) : SecurityKind :=
  match scheme.type with
  | .apiKey => .apiKey (scheme.name.getD "") (scheme.location.getD .header)
  | .http => .http (httpScheme scheme)
  | .oauth2 => oauthKind scheme
  | .openIdConnect => .openIdConnect scheme.openIdConnectUrl
  | .mutualTls => .mutualTls

/-- A resolved security scheme. -/
def resolvedScheme (name : String) (scheme : SecurityScheme) : Resolved.SecurityScheme where
  name
  description := scheme.description
  kind := securityKind scheme
  extensions := vendorExtensions scheme.extensions

/-! ## Documents -/

/-- The general information that is kept. -/
def Info.resolved (info : Info) : Resolved.Info where
  title := info.title
  description := info.description
  version := info.version
  licenseName := info.license.map (·.name)
  licenseUrl := info.license.bind (·.url)
  contactEmail := info.contact.bind (·.email)

/-- The groups of operations before their ids are made distinct. -/
def Document.rawGroups (document : Document) (options : ResolveOptions) : List Group :=
  groupByTag options.naming (options.dialect.operations document options.aliases)

/-- The resolved API, whatever validation finds. -/
def Document.resolved (document : Document) (options : ResolveOptions) : Api where
  info := document.info.resolved
  servers := document.servers.map fun server => ⟨server.url, server.description⟩
  models := options.dialect.models document
  groups := (document.rawGroups options).map Group.settleIds
  securitySchemes := document.parts.securitySchemes.sorted.map fun entry =>
    resolvedScheme entry.1 entry.2

/-- Why a document was not resolved. -/
inductive ResolveError where
  /-- Validation found these issues, and the policy is strict. -/
  | validation (issues : List Issue)
deriving DecidableEq, Repr

/-- The wording of an error. -/
def ResolveError.message : ResolveError → String
  | validation issues =>
    "spec failed validation with " ++ toString (errorCount issues) ++ " error(s)"

/-- Apply a policy to issues. -/
def Policy.enforce (policy : Policy) (issues : List Issue) : Except ResolveError Unit :=
  if policy.rejects issues then .error (.validation issues) else .ok ()

/-- Validate a document unless the options say not to, and resolve it. -/
def Document.resolve (document : Document) (options : ResolveOptions) :
    Except ResolveError Api := do
  if !options.skipValidation then options.validation.enforce document.issues
  return document.resolved options

/-- A document is resolved exactly when validation is skipped or the policy lets its issues pass. -/
theorem Document.resolve_eq (document : Document) (options : ResolveOptions) :
    document.resolve options =
      if !options.skipValidation && options.validation.rejects document.issues then
        .error (.validation document.issues)
      else .ok (document.resolved options) := by
  unfold Document.resolve Policy.enforce
  cases options.skipValidation <;> cases options.validation.rejects document.issues <;> rfl

/-- When validation is skipped or lenient, every document is resolved. -/
theorem Document.resolve_eq_ok (document : Document) {options : ResolveOptions}
    (h : options.skipValidation = true ∨ options.validation = .lenient) :
    document.resolve options = .ok (document.resolved options) := by
  rw [Document.resolve_eq, Policy.rejects]
  rcases h with hskip | hlenient
  · simp [hskip]
  · simp [hlenient]

theorem Document.resolved_of_resolve {document : Document} {options : ResolveOptions} {api : Api}
    (h : document.resolve options = .ok api) : api = document.resolved options := by
  rw [Document.resolve_eq] at h
  split at h
  · nomatch h
  · exact (Except.ok.inj h).symm

/-! ## Reports -/

/-- What is reported when the models of a document are resolved. -/
def Document.modelNotices (document : Document) (options : ResolveOptions) : List Notice :=
  document.schemas.sorted.flatMap (fun entry =>
    options.dialect.modelNotices document entry.1 entry.2)
  ++ [.resolvedModels document.schemas.size]

/-- What is reported when the operations of a document are resolved. -/
def Document.operationNotices (document : Document) (options : ResolveOptions) : List Notice :=
  document.sortedSites.flatMap (options.dialect.operationNotices document options.aliases)
  ++ [.resolvedOperations document.sortedSites.length]

/-- What is reported when a document is resolved, up to the error if it is rejected. -/
def Document.notices (document : Document) (options : ResolveOptions) : List Notice :=
  let issues := if options.skipValidation then [] else document.issues
  issues.map .issue ++
  if options.validation.rejects issues then []
  else
    document.modelNotices options ++ document.operationNotices options
      ++ (document.rawGroups options).flatMap fun group => renamingNotices group.operations

end OpenApi
