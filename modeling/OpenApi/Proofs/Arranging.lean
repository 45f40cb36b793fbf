import OpenApi.Document.Basic
import OpenApi.Proofs.Sorting

/-!
# Documents up to the order of their entries

Arranging a document lists its keyed sections by name: the paths, the sections of the components,
the responses of an operation, the headers of a response, the properties of every schema at any
depth, and the scopes of a flow. Everything else stays as it is, the content of a body and the
mapping of a discriminator included. Two documents differ only in the order of those entries exactly
when they come out the same.

## Main definitions

* `Dict.ordered`: a map with its names in increasing order.
* `Schema.arranged`, …, `Document.arranged`: a part of a document with its keyed sections in order.
* `Document.SameEntries`: two documents differ only in the order of those entries.

## Main statements

* `Dict.ordered_eq_iff`: maps come out the same exactly when one is a permutation of the other.
* `Schema.arranged_eq`: what arranging changes in a schema.
* `Components.arranged_eq_iff`, `Document.sameEntries_iff`: what it is to come out the same.
* `Schema.arranged_eq_of_perm`: permuting the properties of a schema does not change what comes out.
-/
namespace OpenApi

universe u v

/-! ## Maps -/

namespace Dict

variable {α : Type u} {β : Type v}

/-- The map with its names in increasing order. -/
def ordered (d : Dict α) : Dict α where
  entries := d.sorted
  distinct := (d.sorted_perm.map Prod.fst).nodup_iff.2 d.distinct

/-- **Two maps come out the same exactly when one is a permutation of the other.** -/
theorem ordered_eq_iff {d e : Dict α} : d.ordered = e.ordered ↔ d.entries.Perm e.entries := by
  constructor
  · intro h
    have hsorted : d.sorted = e.sorted := congrArg entries h
    exact d.sorted_perm.symm.trans (hsorted ▸ e.sorted_perm)
  · intro h
    exact ext (sortOn_eq_of_perm h d.distinct)

@[simp] theorem sorted_ordered (d : Dict α) : d.ordered.sorted = d.sorted :=
  sortOn_eq_of_perm d.sorted_perm d.ordered.distinct

@[simp] theorem get?_ordered (d : Dict α) (name : String) : d.ordered.get? name = d.get? name := by
  refine Option.ext fun value => ?_
  rw [← mem_entries_iff, ← mem_sorted_iff]
  rfl

@[simp] theorem sorted_map (f : α → β) (d : Dict α) :
    (d.map f).sorted = d.sorted.map fun entry => (entry.1, f entry.2) :=
  sortOn_map _ d.entries

@[simp] theorem get?_map (f : α → β) (d : Dict α) (name : String) :
    (d.map f).get? name = (d.get? name).map f := by
  obtain ⟨entries, distinct⟩ := d
  show (entries.map fun entry => (entry.1, f entry.2)).lookup name = (entries.lookup name).map f
  clear distinct
  induction entries with
  | nil => rfl
  | cons entry rest ih =>
    obtain ⟨first, value⟩ := entry
    rw [List.map_cons, List.lookup_cons, List.lookup_cons, ih]
    cases name == first <;> rfl

@[simp] theorem names_map (f : α → β) (d : Dict α) : (d.map f).names = d.names := by
  simp [names, map]

end Dict

/-! ## Schemas -/

namespace Referable

variable {α : Type u} {β : Type v}

/-- Change the object that is no reference. -/
def map (f : α → β) : Referable α → Referable β
  | reference path => reference path
  | inline value => inline (f value)

end Referable

mutual

/-- A schema with the properties of every schema in it by name. -/
def Schema.arranged : Schema → Schema
  | ⟨keywords, properties, additionalProperties, items, allOf, oneOf, anyOf⟩ =>
    { toKeywords := keywords
      properties := sortOn Prod.fst (arrangedProperties properties)
      additionalProperties := match additionalProperties with
        | some (.values schema) => some (.values (arrangedSchema schema))
        | some (.allowed flag) => some (.allowed flag)
        | none => none
      items := match items with
        | some schema => some (arrangedSchema schema)
        | none => none
      allOf := arrangedBranches allOf
      oneOf := arrangedBranches oneOf
      anyOf := arrangedBranches anyOf }
termination_by structural schema => schema

/-- A reference, or a schema arranged. -/
def arrangedSchema : Referable Schema → Referable Schema
  | .reference path => .reference path
  | .inline schema => .inline schema.arranged
termination_by structural schema => schema

/-- A list of schemas, each arranged. -/
def arrangedBranches : List (Referable Schema) → List (Referable Schema)
  | [] => []
  | schema :: rest => arrangedSchema schema :: arrangedBranches rest
termination_by structural schemas => schemas

/-- A list of named schemas, each arranged. -/
def arrangedProperties : List (String × Referable Schema) → List (String × Referable Schema)
  | [] => []
  | (name, schema) :: rest => (name, arrangedSchema schema) :: arrangedProperties rest
termination_by structural properties => properties

end

theorem arrangedSchema_eq_map : arrangedSchema = Referable.map Schema.arranged := by
  funext schema
  cases schema <;> rfl

theorem arrangedBranches_eq_map (schemas : List (Referable Schema)) :
    arrangedBranches schemas = schemas.map arrangedSchema := by
  induction schemas with
  | nil => rfl
  | cons schema rest ih => rw [arrangedBranches, ih, List.map_cons]

theorem arrangedProperties_eq_map (properties : List (String × Referable Schema)) :
    arrangedProperties properties =
      properties.map fun entry => (entry.1, arrangedSchema entry.2) := by
  induction properties with
  | nil => rfl
  | cons entry rest ih => rw [arrangedProperties, ih, List.map_cons]

/-- What a schema says of other properties, with their schema arranged. -/
def AdditionalProperties.arranged : AdditionalProperties Schema → AdditionalProperties Schema
  | .allowed flag => .allowed flag
  | .values schema => .values (arrangedSchema schema)

/-- **What arranging changes in a schema**: the schemas it holds, and the order of its
properties. -/
theorem Schema.arranged_eq (schema : Schema) : schema.arranged =
    { schema with
      properties := sortOn Prod.fst
        (schema.properties.map fun entry => (entry.1, arrangedSchema entry.2))
      additionalProperties := schema.additionalProperties.map AdditionalProperties.arranged
      items := schema.items.map arrangedSchema
      allOf := schema.allOf.map arrangedSchema
      oneOf := schema.oneOf.map arrangedSchema
      anyOf := schema.anyOf.map arrangedSchema } := by
  obtain ⟨keywords, properties, additional, items, allOf, oneOf, anyOf⟩ := schema
  rcases items with _ | items <;> rcases additional with _ | (_ | _) <;>
    simp [Schema.arranged, arrangedProperties_eq_map, arrangedBranches_eq_map,
      AdditionalProperties.arranged]

/-- **Permuting the properties of a schema does not change what comes out.** -/
theorem Schema.arranged_eq_of_perm {schema : Schema} {properties : List (String × Referable Schema)}
    (h : schema.properties.Perm properties) (hnodup : (schema.properties.map Prod.fst).Nodup) :
    { schema with properties }.arranged = schema.arranged := by
  rw [arranged_eq, arranged_eq schema]
  have hmapped : ((schema.properties.map fun entry => (entry.1, arrangedSchema entry.2)).map
      Prod.fst).Nodup := by
    simpa [Function.comp_def] using hnodup
  rw [sortOn_eq_of_perm (h.map _) hmapped]

/-! ## Parts of an operation -/

/-- A media type with its schema arranged. -/
def MediaType.arranged (media : MediaType) : MediaType :=
  { media with schema := media.schema.map arrangedSchema }

/-- A parameter with its schema arranged. -/
def Parameter.arranged (parameter : Parameter) : Parameter :=
  { parameter with schema := parameter.schema.map arrangedSchema }

/-- A header with its schema arranged. -/
def Header.arranged (header : Header) : Header :=
  { header with schema := header.schema.map arrangedSchema }

/-- A request body with its schemas arranged; the content types keep their order. -/
def RequestBody.arranged (body : RequestBody) : RequestBody :=
  { body with content := body.content.map MediaType.arranged }

/-- A response with its headers by name; the content types keep their order. -/
def Response.arranged (response : Response) : Response :=
  { response with
    content := response.content.map MediaType.arranged
    headers := (response.headers.map (Referable.map Header.arranged)).ordered }

/-! ## Operations -/

/-- An operation with its responses by code; the parameters keep their order. -/
def Operation.arranged (operation : Operation) : Operation :=
  { operation with
    parameters := operation.parameters.map (Referable.map Parameter.arranged)
    requestBody := operation.requestBody.map (Referable.map RequestBody.arranged)
    responses := (operation.responses.map (Referable.map Response.arranged)).ordered }

/-- A path with its operations arranged. -/
def PathItem.arranged (item : PathItem) : PathItem :=
  { item with
    parameters := item.parameters.map (Referable.map Parameter.arranged)
    get := item.get.map Operation.arranged
    put := item.put.map Operation.arranged
    post := item.post.map Operation.arranged
    delete := item.delete.map Operation.arranged
    options := item.options.map Operation.arranged
    head := item.head.map Operation.arranged
    patch := item.patch.map Operation.arranged
    trace := item.trace.map Operation.arranged }

theorem PathItem.operation?_arranged (item : PathItem) (method : Method) :
    item.arranged.operation? method = (item.operation? method).map Operation.arranged := by
  cases method <;> rfl

/-! ## Security schemes -/

/-- A flow with its scopes by name. -/
def OAuthFlow.arranged (flow : OAuthFlow) : OAuthFlow :=
  { flow with scopes := flow.scopes.ordered }

/-- The flows with their scopes by name. -/
def OAuthFlows.arranged (flows : OAuthFlows) : OAuthFlows where
  implicit := flows.implicit.map OAuthFlow.arranged
  password := flows.password.map OAuthFlow.arranged
  clientCredentials := flows.clientCredentials.map OAuthFlow.arranged
  authorizationCode := flows.authorizationCode.map OAuthFlow.arranged

/-- A security scheme with the scopes of its flows by name. -/
def SecurityScheme.arranged (scheme : SecurityScheme) : SecurityScheme :=
  { scheme with flows := scheme.flows.map OAuthFlows.arranged }

/-! ## Documents -/

/-- The components of each section by name, and arranged. -/
def Components.arranged (parts : Components) : Components where
  schemas := (parts.schemas.map arrangedSchema).ordered
  responses := (parts.responses.map (Referable.map Response.arranged)).ordered
  parameters := (parts.parameters.map (Referable.map Parameter.arranged)).ordered
  requestBodies := (parts.requestBodies.map (Referable.map RequestBody.arranged)).ordered
  headers := (parts.headers.map (Referable.map Header.arranged)).ordered
  securitySchemes := (parts.securitySchemes.map SecurityScheme.arranged).ordered

/-- Components come out the same exactly when each section of one is a permutation of that of the
other, up to what comes out of its components. -/
theorem Components.arranged_eq_iff {parts others : Components} : parts.arranged = others.arranged ↔
    (parts.schemas.map arrangedSchema).entries.Perm (others.schemas.map arrangedSchema).entries
      ∧ (parts.responses.map (Referable.map Response.arranged)).entries.Perm
        (others.responses.map (Referable.map Response.arranged)).entries
      ∧ (parts.parameters.map (Referable.map Parameter.arranged)).entries.Perm
        (others.parameters.map (Referable.map Parameter.arranged)).entries
      ∧ (parts.requestBodies.map (Referable.map RequestBody.arranged)).entries.Perm
        (others.requestBodies.map (Referable.map RequestBody.arranged)).entries
      ∧ (parts.headers.map (Referable.map Header.arranged)).entries.Perm
        (others.headers.map (Referable.map Header.arranged)).entries
      ∧ (parts.securitySchemes.map SecurityScheme.arranged).entries.Perm
        (others.securitySchemes.map SecurityScheme.arranged).entries := by
  simp only [arranged, Components.mk.injEq, Dict.ordered_eq_iff]

/-- A document with its paths by name, and everything in it arranged. -/
def Document.arranged (document : Document) : Document :=
  { document with
    paths := (document.paths.map PathItem.arranged).ordered
    components := document.components.map Components.arranged }

/-- The documents differ only in the order of the entries of their keyed sections. -/
def Document.SameEntries (document other : Document) : Prop := document.arranged = other.arranged

/-- **Documents differ only in the order of their entries** exactly when the paths of one are a
permutation of those of the other, up to what comes out of each path, and the components
likewise. -/
theorem Document.sameEntries_iff {document other : Document} : document.SameEntries other ↔
    (document.openapi = other.openapi ∧ document.info = other.info
        ∧ document.servers = other.servers ∧ document.tags = other.tags
        ∧ document.security = other.security)
      ∧ (document.paths.map PathItem.arranged).entries.Perm
        (other.paths.map PathItem.arranged).entries
      ∧ document.components.map Components.arranged =
        other.components.map Components.arranged := by
  simp only [SameEntries, arranged, Document.mk.injEq, Dict.ordered_eq_iff]
  constructor
  · rintro ⟨hopenapi, hinfo, hservers, hpaths, hcomponents, htags, hsecurity⟩
    exact ⟨⟨hopenapi, hinfo, hservers, htags, hsecurity⟩, hpaths, hcomponents⟩
  · rintro ⟨⟨hopenapi, hinfo, hservers, htags, hsecurity⟩, hpaths, hcomponents⟩
    exact ⟨hopenapi, hinfo, hservers, hpaths, hcomponents, htags, hsecurity⟩

@[simp] theorem Document.parts_arranged (document : Document) :
    document.arranged.parts = document.parts.arranged := by
  cases h : document.components <;> simp [parts, arranged, h]
  rfl

end OpenApi
