import OpenApi.Proofs.ByteOrder
import OpenApi.Proofs.Groups
import OpenApi.Proofs.ReferenceChains
import OpenApi.Proofs.Settling

/-!
# Responses and results

An operation lists its responses by code. Those whose chain of references reaches no response are
left out. The result is what the lowest successful code gives that gives anything, and the content
types come in the order in which the listed responses have them. So nothing depends on the order in
which the codes are declared.

## Main definitions

* `FirstSchema`: the first content type that has a schema.
* `LowestSuccess`: the successful response with the lowest code, of those with a schema.
* `ResponsesSettled`: what the responses, the result and the content types of an operation are.

## Main statements

* `resultOf_eq_some_iff`: the result is that of the lowest success.
* `Dialect.responses_eq_of_perm`: the responses do not depend on the order of the declarations.
* `responsesSettled_resolve`: the responses of all operations of a resolved document are settled.
* `responsesSettled_and_eq_of_perm`: those of an operation are, and in one way for all orders.
-/
namespace OpenApi

open Resolved (Property StatusClass)

/-! ## Contents -/

/-- Of the content types, `contentType` is the first that has a schema. -/
def FirstSchema (content : Dict MediaType) (contentType : String) (schema : Referable Schema) :
    Prop :=
  ∃ before media after, content.entries = before ++ (contentType, media) :: after
    ∧ media.schema = some schema ∧ ∀ entry ∈ before, entry.2.schema = none

/-- The search finds the first content type with a schema. -/
theorem firstSchema?_eq_some_iff {content : Dict MediaType} {contentType : String}
    {schema : Referable Schema} :
    firstSchema? content = some (contentType, schema) ↔ FirstSchema content contentType schema := by
  simp only [firstSchema?, List.findSome?_eq_some_iff, Option.map_eq_some_iff, Prod.mk.injEq,
    Option.map_eq_none_iff]
  constructor
  · rintro ⟨before, ⟨_, media⟩, after, hentries, ⟨_, hschema, rfl, rfl⟩, hbefore⟩
    exact ⟨before, media, after, hentries, hschema, hbefore⟩
  · rintro ⟨before, media, after, hentries, hschema, hbefore⟩
    exact ⟨before, (contentType, media), after, hentries, ⟨schema, hschema, rfl, rfl⟩, hbefore⟩

/-! ## The lowest success -/

section Result

variable {responses : List Resolved.Response} {response : Resolved.Response} {property : Property}

/-- A code is successful when it begins with a two. -/
theorem ofCode_eq_success_iff {code : String} :
    StatusClass.ofCode code = .success ↔ code.toList.head? = some '2' := by
  unfold StatusClass.ofCode
  split <;> simp_all

/-- A response is successful and has a schema, and all others of this kind have higher codes. -/
structure LowestSuccess (responses : List Resolved.Response) (response : Resolved.Response) :
    Prop where
  mem : response ∈ responses
  success : response.code.toList.head? = some '2'
  schema : response.schema.isSome
  lowest : ∀ other ∈ responses, other.code.toList.head? = some '2' → other.schema.isSome →
    other ≠ response → bytes response.code < bytes other.code

/-- **The result is that of the lowest success**, when the responses come by code. -/
theorem resultOf_eq_some_iff (hsorted : responses.Pairwise (·.code < ·.code)) :
    Dialect.resultOf responses = some property ↔
      ∃ response, LowestSuccess responses response ∧ response.schema = some property := by
  simp only [Dialect.resultOf, List.findSome?_eq_some_iff, Option.ite_none_right_eq_some,
    Resolved.Response.statusClass, ofCode_eq_success_iff]
  constructor
  · rintro ⟨before, response, after, rfl, ⟨hsuccess, hschema⟩, hbefore⟩
    refine ⟨response, ⟨by simp, hsuccess, by simp [hschema], ?_⟩, hschema⟩
    intro other hother hsuccess' hschema' hne
    rcases List.mem_append.1 hother with hearlier | hlater
    · have hnone := hbefore other hearlier
      rw [if_pos hsuccess'] at hnone
      simp [hnone] at hschema'
    · have hafter := (List.mem_cons.1 hlater).resolve_left hne
      have hcons := (List.pairwise_append.1 hsorted).2.1
      exact bytes_lt_bytes ((List.pairwise_cons.1 hcons).1 other hafter)
  · rintro ⟨response, ⟨hmem, hsuccess, -, hlowest⟩, hschema⟩
    obtain ⟨before, after, rfl⟩ := List.append_of_mem hmem
    refine ⟨before, response, after, rfl, ⟨hsuccess, hschema⟩, fun other hother => ?_⟩
    have hlt : other.code < response.code :=
      (List.pairwise_append.1 hsorted).2.2 other hother response List.mem_cons_self
    split
    · rename_i hsuccess'
      refine Option.not_isSome_iff_eq_none.1 fun hschema' => ?_
      have hne : other ≠ response := fun heq => String.lt_irrefl _ (heq ▸ hlt)
      have hgt := hlowest other (List.mem_append_left _ hother) hsuccess' hschema' hne
      exact String.lt_asymm hlt (bytes_lt_bytes_iff.1 hgt)
    · rfl

/-- There is no result when no successful response has a schema. -/
theorem resultOf_eq_none_iff : Dialect.resultOf responses = none ↔
    ∀ response ∈ responses, response.code.toList.head? = some '2' → response.schema = none := by
  simp only [Dialect.resultOf, List.findSome?_eq_none_iff, ite_eq_right_iff,
    Resolved.Response.statusClass, ofCode_eq_success_iff]

end Result

/-! ## Content types -/

/-- The first occurrences of names are these names, each once, in the order in which they first
came. -/
theorem firstOccurrences_spec (names : List String) :
    (Dialect.firstOccurrences names).Nodup
      ∧ (∀ name, name ∈ Dialect.firstOccurrences names ↔ name ∈ names)
      ∧ (Dialect.firstOccurrences names).Pairwise (names.idxOf · < names.idxOf ·) := by
  have hkeys : (names.map fun name => (name, ())).map Prod.fst = names := by
    simp [Function.comp_def]
  refine ⟨nodup_keys_settle _, fun name => ?_, ?_⟩
  · rw [Dialect.firstOccurrences, mem_keys_settle, hkeys]
  · have hpairwise := pairwise_idxOf_settle (names.map fun name => (name, ()))
    rw [hkeys] at hpairwise
    exact hpairwise

/-! ## Operations -/

namespace Dialect

variable {dialect : Dialect} {document : Document} {source : Operation}

/-- A response is listed when the chain from its declaration reaches an object. -/
theorem mem_responses_iff {response : Resolved.Response} :
    response ∈ dialect.responses document source ↔
      ∃ code declared found, source.responses.get? code = some declared
        ∧ ChainResult "responses" document.parts.responses declared (.ok found)
        ∧ response = dialect.response document code found := by
  have hfollow (declared : Referable Response) (found : Response) :
      document.response declared = .ok found ↔
        ChainResult "responses" document.parts.responses declared (.ok found) :=
    follow_eq_iff (by decide)
  simp only [responses, List.mem_filterMap, Prod.exists, Dict.mem_sorted_iff,
    Option.map_eq_some_iff, toOption_eq_some_iff, hfollow]
  constructor
  · rintro ⟨code, declared, hdeclared, found, hfound, rfl⟩
    exact ⟨code, declared, found, hdeclared, hfound, rfl⟩
  · rintro ⟨code, declared, found, hdeclared, hfound, rfl⟩
    exact ⟨code, declared, hdeclared, found, hfound, rfl⟩

theorem pairwise_code_responses (dialect : Dialect) (document : Document) (source : Operation) :
    (dialect.responses document source).Pairwise (·.code < ·.code) := by
  refine List.pairwise_filterMap.2 (source.responses.pairwise_sorted.imp ?_)
  intro first second hlt response hresponse other hother
  obtain ⟨_, _, rfl⟩ := Option.map_eq_some_iff.1 hresponse
  obtain ⟨_, _, rfl⟩ := Option.map_eq_some_iff.1 hother
  exact hlt

/-- **The responses do not depend on the order in which the codes are declared.** -/
theorem responses_eq_of_perm {other : Operation}
    (h : other.responses.entries.Perm source.responses.entries) :
    dialect.responses document other = dialect.responses document source := by
  have hsorted : other.responses.sorted = source.responses.sorted :=
    sortOn_eq_of_perm h other.responses.distinct
  rw [responses, responses, hsorted]

end Dialect

/-- What the responses, the result and the content types of an operation are. -/
structure ResponsesSettled (dialect : Dialect) (document : Document) (source : Operation)
    (operation : Resolved.Operation) : Prop where
  increasing : (operation.responses.map (·.code)).Pairwise (bytes · < bytes ·)
  /-- The codes are those that are declared with a chain that reaches a response. -/
  mem_codes : ∀ code, code ∈ operation.responses.map (·.code) ↔
    ∃ declared found, source.responses.get? code = some declared
      ∧ ChainResult "responses" document.parts.responses declared (.ok found)
  /-- Each is made of the response that its chain reaches. -/
  resolved : ∀ response ∈ operation.responses, ∃ declared found,
    source.responses.get? response.code = some declared
      ∧ ChainResult "responses" document.parts.responses declared (.ok found)
      ∧ response = dialect.response document response.code found
      ∧ response.contentTypes = found.content.names
      ∧ ∀ property, response.schema = some property ↔ ∃ contentType schema,
          FirstSchema found.content contentType schema
            ∧ dialect.property Dialect.responseName false schema = property
  /-- The result is that of the lowest success, if there is one. -/
  result : ∀ property, operation.result = some property ↔
    ∃ response, LowestSuccess operation.responses response ∧ response.schema = some property
  result_none : operation.result = none ↔
    ∀ response ∈ operation.responses, response.code.toList.head? = some '2' → response.schema = none
  produces_distinct : operation.produces.Nodup
  mem_produces : ∀ contentType, contentType ∈ operation.produces ↔
    ∃ response ∈ operation.responses, contentType ∈ response.contentTypes
  /-- The content types come in the order in which the responses first have them. -/
  produces_order : operation.produces.Pairwise fun first second =>
    (operation.responses.flatMap (·.contentTypes)).idxOf first <
      (operation.responses.flatMap (·.contentTypes)).idxOf second

theorem responsesSettled_operation (dialect : Dialect) (document : Document) (aliases : Dict String)
    (site : OperationSite) :
    ResponsesSettled dialect document site.operation (dialect.operation document aliases site) := by
  have hsorted := dialect.pairwise_code_responses document site.operation
  obtain ⟨hdistinct, hmem, horder⟩ :=
    firstOccurrences_spec ((dialect.responses document site.operation).flatMap (·.contentTypes))
  constructor
  case increasing => exact List.pairwise_map.2 (hsorted.imp bytes_lt_bytes)
  case mem_codes =>
    intro code
    constructor
    · rintro hcode
      obtain ⟨response, hresponse, rfl⟩ := List.mem_map.1 hcode
      obtain ⟨code, declared, found, hdeclared, hfound, rfl⟩ :=
        Dialect.mem_responses_iff.1 hresponse
      exact ⟨declared, found, hdeclared, hfound⟩
    · rintro ⟨declared, found, hdeclared, hfound⟩
      exact List.mem_map.2 ⟨dialect.response document code found,
        Dialect.mem_responses_iff.2 ⟨code, declared, found, hdeclared, hfound, rfl⟩, rfl⟩
  case resolved =>
    intro response hresponse
    obtain ⟨code, declared, found, hdeclared, hfound, rfl⟩ := Dialect.mem_responses_iff.1 hresponse
    refine ⟨declared, found, hdeclared, hfound, rfl, rfl, fun property => ?_⟩
    simp only [Dialect.response, Option.map_eq_some_iff, Prod.exists, firstSchema?_eq_some_iff]
  case result => exact fun property => resultOf_eq_some_iff hsorted
  case result_none => exact resultOf_eq_none_iff
  case produces_distinct => exact hdistinct
  case mem_produces =>
    intro contentType
    exact (hmem contentType).trans List.mem_flatMap
  case produces_order => exact horder

/-- The operations of a resolved document are those of its sites, so their responses are settled. -/
theorem responsesSettled_resolve {document : Document} {options : ResolveOptions}
    {api : Resolved.Api} (h : document.resolve options = .ok api) :
    ∀ group ∈ api.groups, ∀ operation ∈ group.operations, ∃ site ∈ document.sites,
      ResponsesSettled options.dialect document site.operation operation := by
  obtain rfl := Document.resolved_of_resolve h
  intro group hgroup operation hmem
  obtain ⟨site, hsite, hrename, -⟩ := exists_site_of_mem_groups hgroup hmem
  rw [hrename]
  obtain ⟨increasing, mem_codes, resolved, result, result_none, distinct, mem_produces, order⟩ :=
    responsesSettled_operation options.dialect document options.aliases site
  -- A renamed operation has the same responses.
  exact ⟨site, hsite,
    ⟨increasing, mem_codes, resolved, result, result_none, distinct, mem_produces, order⟩⟩

/-- **The responses, the result and the content types of every operation are settled**, and they are
the same for every order in which the codes may be declared. -/
theorem responsesSettled_and_eq_of_perm (dialect : Dialect) (document : Document)
    (aliases : Dict String) (site : OperationSite) :
    ResponsesSettled dialect document site.operation (dialect.operation document aliases site)
      ∧ ∀ other : OperationSite,
        other.operation.responses.entries.Perm site.operation.responses.entries →
          (dialect.operation document aliases other).responses =
              (dialect.operation document aliases site).responses
            ∧ (dialect.operation document aliases other).result =
              (dialect.operation document aliases site).result
            ∧ (dialect.operation document aliases other).produces =
              (dialect.operation document aliases site).produces := by
  refine ⟨responsesSettled_operation dialect document aliases site, fun other h => ?_⟩
  have hresponses : (dialect.operation document aliases other).responses =
      (dialect.operation document aliases site).responses := Dialect.responses_eq_of_perm h
  have hproduces (site : OperationSite) : (dialect.operation document aliases site).produces =
      Dialect.firstOccurrences
        ((dialect.operation document aliases site).responses.flatMap (·.contentTypes)) := rfl
  exact ⟨hresponses, congrArg Dialect.resultOf hresponses,
    by rw [hproduces, hproduces, hresponses]⟩

/-- An operation with the responses that are given. -/
def treatsSite (responses : List (String × Referable Response)) : OperationSite where
  path := "/treats"
  item := {}
  method := .get
  operation := { responses := Dict.ofEntries responses }

/-- Three responses and a reference that leads nowhere. -/
def treatsResponses : List (String × Referable Response) :=
  [("404", .inline
      { content := Dict.ofEntries
          [("application/json",
            { schema := some (.inline { type := some (.single .object) }) })] }),
    ("201", .inline
      { content := Dict.ofEntries
          [("text/html", {}),
            ("application/json",
              { schema := some (.inline { type := some (.single .string) }) })] }),
    ("200", .inline { content := Dict.ofEntries [("text/plain", {})] }),
    ("2XX", .reference "#/components/responses/Gone")]

/-- A document without paths and components. -/
def treatsDocument : Document where
  openapi := "3.0.3"
  info := { title := "treats", version := "1" }

/-- The lowest success gives no schema here, so the next one gives the result. -/
theorem responsesSettled_and_eq_of_perm_treats :
    (treatsSite treatsResponses.reverse).operation.responses.entries.Perm
        (treatsSite treatsResponses).operation.responses.entries
      ∧ (Dialect.operation {} treatsDocument ∅ (treatsSite treatsResponses.reverse)).result =
        (Dialect.operation {} treatsDocument ∅ (treatsSite treatsResponses)).result
      ∧ (Dialect.operation {} treatsDocument ∅ (treatsSite treatsResponses)).returnType =
        some "string"
      ∧ (Dialect.operation {} treatsDocument ∅ (treatsSite treatsResponses)).produces =
        ["text/plain", "text/html", "application/json"] := by
  have hperm : (treatsSite treatsResponses.reverse).operation.responses.entries.Perm
      (treatsSite treatsResponses).operation.responses.entries := by
    rw [treatsSite, treatsSite, Dict.entries_ofEntries (by decide),
      Dict.entries_ofEntries (by decide)]
    exact List.reverse_perm _
  exact ⟨hperm, ((responsesSettled_and_eq_of_perm {} treatsDocument ∅ _).2 _ hperm).2.1,
    by decide +kernel, by decide +kernel⟩

end OpenApi
