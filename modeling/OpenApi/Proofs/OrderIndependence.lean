import OpenApi.Proofs.ArrangedModels
import OpenApi.Proofs.References
import OpenApi.Resolution.Document

/-!
# Resolution forgets the order of entries

What is resolved from a document is what is resolved from it arranged, so two documents that differ
only in the order of their entries resolve to the same: maps are looked up or listed by name.

## Main definitions

* `OperationSite.arranged`: a site with its path and operation arranged.

## Main statements

* `follow_map`: a chain comes to the same object, changed, through changed entries in another order.
* `Dialect.models_arranged`, `Dialect.operations_arranged`: models and operations are the same.
* `Document.resolved_arranged`: what is resolved is the same.
* `resolve_eq_of_sameEntries`: documents with the same entries resolve to the same.
-/
namespace OpenApi

/-! ## Chains -/

section Follow

variable {α β : Type} {sectionName : String}

/-- A chain through entries with the same names comes to the same object, changed. -/
theorem followFresh_map {f : α → β} {all : Dict (Referable α)} {other : Dict (Referable β)}
    (hall : ∀ name, other.get? name = (all.get? name).map (Referable.map f))
    {fresh : List (String × Referable α)} {others : List (String × Referable β)}
    (hfresh : ∀ name, others.lookup name = (fresh.lookup name).map (Referable.map f))
    (start : Referable α) :
    followFresh sectionName other others (start.map f) =
      (followFresh sectionName all fresh start).map f := by
  fun_induction followFresh sectionName all fresh start generalizing others with
  | case1 fresh value =>
    rw [Referable.map, followFresh]
    rfl
  | case2 fresh path e hname =>
    rw [Referable.map, followFresh_reference, hname]
    rfl
  | case3 fresh path name hname next hnext _ ih =>
    rw [Referable.map, followFresh_reference, hname]
    dsimp only
    rw [hfresh, hnext]
    refine ih fun other => ?_
    rw [lookup_without, lookup_without, hfresh]
    split <;> rfl
  | case4 fresh path name hname hnext hthere =>
    rw [Referable.map, followFresh_reference, hname]
    dsimp only
    rw [hfresh, hnext, hall, Option.isSome_map, if_pos hthere]
    rfl
  | case5 fresh path name hname hnext hmissing =>
    rw [Referable.map, followFresh_reference, hname]
    dsimp only
    rw [hfresh, hnext, hall, Option.isSome_map, if_neg hmissing]
    rfl

/-- **A chain comes to the same object, changed**, through changed entries in another order. -/
theorem follow_map (f : α → β) (components : Dict (Referable α)) (start : Referable α) :
    follow sectionName (components.map (Referable.map f)).ordered (start.map f) =
      (follow sectionName components start).map f := by
  have hall (name : String) : (components.map (Referable.map f)).ordered.get? name =
      (components.get? name).map (Referable.map f) := by simp
  exact followFresh_map hall hall start

end Follow

/-! ## Sections of a document -/

namespace Document

variable (document : Document)

theorem schema_arranged (schema : Referable Schema) :
    document.arranged.schema (arrangedSchema schema) =
      (document.schema schema).map Schema.arranged := by
  rw [Document.schema, schemas, parts_arranged, Components.arranged, arrangedSchema_eq_map]
  exact follow_map _ _ _

theorem parameter_arranged (parameter : Referable Parameter) :
    document.arranged.parameter (parameter.map Parameter.arranged) =
      (document.parameter parameter).map Parameter.arranged := by
  rw [Document.parameter, parts_arranged]
  exact follow_map _ _ _

theorem requestBody_arranged (body : Referable RequestBody) :
    document.arranged.requestBody (body.map RequestBody.arranged) =
      (document.requestBody body).map RequestBody.arranged := by
  rw [Document.requestBody, parts_arranged]
  exact follow_map _ _ _

theorem response_arranged (response : Referable Response) :
    document.arranged.response (response.map Response.arranged) =
      (document.response response).map Response.arranged := by
  rw [Document.response, parts_arranged]
  exact follow_map _ _ _

theorem header_arranged (header : Referable Header) :
    document.arranged.header (header.map Header.arranged) =
      (document.header header).map Header.arranged := by
  rw [Document.header, parts_arranged]
  exact follow_map _ _ _

end Document

namespace Dialect

variable {dialect : Dialect} {document : Document}

theorem model_arranged (name : String) (schema : Referable Schema) :
    dialect.model document.arranged name (arrangedSchema schema) =
      dialect.model document name schema := by
  rw [model, model, Document.schema_arranged]
  cases document.schema schema with
  | error _ => rfl
  | ok body => exact bodyModel_arranged name body

/-- **The models of a document are the same.** -/
theorem models_arranged (document : Document) :
    dialect.models document.arranged = dialect.models document := by
  rw [models, models, Document.schemas, Document.parts_arranged, Components.arranged,
    Dict.sorted_ordered, Dict.sorted_map, List.map_map]
  exact List.map_congr_left fun entry _ => model_arranged entry.1 entry.2

/-! ## Operations -/

theorem optionalProperty_arranged (name : String) (required : Bool)
    (schema : Option (Referable Schema)) :
    dialect.optionalProperty name required (schema.map arrangedSchema) =
      dialect.optionalProperty name required schema := by
  cases schema with
  | none => rfl
  | some schema => exact property_arranged name required schema

theorem firstSchema?_arranged (content : Dict MediaType) :
    firstSchema? (content.map MediaType.arranged) =
      (firstSchema? content).map fun found => (found.1, arrangedSchema found.2) := by
  simp only [firstSchema?, Dict.map, MediaType.arranged, List.findSome?_map, List.map_findSome?,
    Function.comp_def, Option.map_map]

theorem parameter_arranged (parameter : Parameter) :
    dialect.parameter parameter.arranged = dialect.parameter parameter := by
  simp only [Dialect.parameter, Parameter.arranged, optionalProperty_arranged]

theorem bodyParameter_arranged (body : RequestBody) :
    dialect.bodyParameter body.arranged = dialect.bodyParameter body := by
  simp only [bodyParameter, RequestBody.arranged, firstSchema?_arranged, Option.map_map,
    Function.comp_def, property_arranged]

theorem header_arranged (name : String) (header : Header) :
    dialect.header name header.arranged = dialect.header name header := by
  simp only [Dialect.header, Header.arranged, optionalProperty_arranged]

theorem headers_arranged (response : Response) :
    dialect.headers document.arranged response.arranged = dialect.headers document response := by
  simp only [headers, Response.arranged, Dict.sorted_ordered, Dict.sorted_map, List.filterMap_map,
    Function.comp_def, Document.header_arranged, toOption_map, Option.map_map, header_arranged]

theorem response_arranged (code : String) (response : Response) :
    dialect.response document.arranged code response.arranged =
      dialect.response document code response := by
  simp only [Dialect.response, headers_arranged]
  simp only [Response.arranged, firstSchema?_arranged, Option.map_map, Function.comp_def,
    property_arranged, Dict.names_map]

theorem responses_arranged (operation : Operation) :
    dialect.responses document.arranged operation.arranged =
      dialect.responses document operation := by
  simp only [responses, Operation.arranged, Dict.sorted_ordered, Dict.sorted_map,
    List.filterMap_map, Function.comp_def, Document.response_arranged, toOption_map,
    Option.map_map, response_arranged]

end Dialect

/-- A site with its path and operation arranged. -/
def OperationSite.arranged (site : OperationSite) : OperationSite where
  path := site.path
  item := site.item.arranged
  method := site.method
  operation := site.operation.arranged

namespace OperationSite

variable (document : Document) (site : OperationSite)

theorem parameters_arranged : site.arranged.parameters document.arranged =
    (site.parameters document).map (Except.map Parameter.arranged) := by
  simp only [parameters, arranged, PathItem.parametersOf, PathItem.arranged, Operation.arranged,
    ← List.map_append, List.map_map, Function.comp_def, Document.parameter_arranged]

theorem requestBody_arranged : site.arranged.requestBody document.arranged =
    (site.requestBody document).map (Except.map RequestBody.arranged) := by
  simp only [requestBody, arranged, Operation.arranged, Option.map_map, Function.comp_def,
    Document.requestBody_arranged]

/-- The bodies of an operation that can be followed, none or one. -/
theorem successes_requestBody_arranged :
    successes (site.arranged.requestBody document.arranged).toList =
      (successes (site.requestBody document).toList).map RequestBody.arranged := by
  rw [requestBody_arranged, ← successes_map]
  cases site.requestBody document <;> rfl

theorem ofItem_arranged (path : String) (item : PathItem) :
    ofItem path item.arranged = (ofItem path item).map arranged := by
  simp only [ofItem, PathItem.operations, PathItem.operation?_arranged, List.map_filterMap,
    Option.map_map, Function.comp_def, arranged]

end OperationSite

theorem Document.sortedSites_arranged (document : Document) :
    document.arranged.sortedSites = document.sortedSites.map OperationSite.arranged := by
  simp only [sortedSites, arranged, Dict.sorted_ordered, Dict.sorted_map, List.flatMap_map,
    List.map_flatMap, OperationSite.ofItem_arranged]

namespace Dialect

variable {dialect : Dialect} {document : Document}

theorem declaredParameters_arranged (site : OperationSite) :
    dialect.declaredParameters document.arranged site.arranged =
      dialect.declaredParameters document site := by
  simp only [declaredParameters, OperationSite.parameters_arranged, successes_map,
    OperationSite.successes_requestBody_arranged, List.map_map, List.filterMap_map,
    Function.comp_def, parameter_arranged, bodyParameter_arranged]

theorem consumed_arranged (site : OperationSite) :
    consumed document.arranged site.arranged = consumed document site := by
  simp only [consumed, OperationSite.successes_requestBody_arranged, List.flatMap_map,
    RequestBody.arranged, Dict.names_map]

/-- **The operation of a site is the same.** -/
theorem operation_arranged (aliases : Dict String) (site : OperationSite) :
    dialect.operation document.arranged aliases site.arranged =
      dialect.operation document aliases site := by
  have hresponses : dialect.responses document.arranged site.arranged.operation =
      dialect.responses document site.operation := responses_arranged site.operation
  rw [operation, operation, hresponses, consumed_arranged, declaredParameters_arranged]
  rfl

theorem operations_arranged (document : Document) (aliases : Dict String) :
    dialect.operations document.arranged aliases = dialect.operations document aliases := by
  rw [operations, operations, Document.sortedSites_arranged, List.map_map]
  exact List.map_congr_left fun site _ => operation_arranged aliases site

end Dialect

/-! ## Security schemes -/

theorem declaredFlows_arranged (flows : OAuthFlows) :
    declaredFlows flows.arranged =
      (declaredFlows flows).map fun entry => (entry.1, entry.2.arranged) := by
  rcases flows with ⟨_ | _, _ | _, _ | _, _ | _⟩ <;> rfl

theorem oauthKind_arranged (scheme : SecurityScheme) :
    oauthKind scheme.arranged = oauthKind scheme := by
  have hchosen : (scheme.arranged.flows.bind fun flows => (declaredFlows flows).head?) =
      (scheme.flows.bind fun flows => (declaredFlows flows).head?).map
        fun entry => (entry.1, entry.2.arranged) := by
    rw [SecurityScheme.arranged, Option.bind_map, Option.map_bind]
    refine congrArg _ (funext fun flows => ?_)
    simp only [Function.comp_apply, declaredFlows_arranged, List.head?_map]
  rw [oauthKind, hchosen, oauthKind]
  rcases scheme.flows.bind fun flows => (declaredFlows flows).head? with _ | ⟨kind, flow⟩
  · rfl
  · simp only [Option.map_some, OAuthFlow.arranged, Dict.sorted_ordered]

theorem resolvedScheme_arranged (name : String) (scheme : SecurityScheme) :
    resolvedScheme name scheme.arranged = resolvedScheme name scheme := by
  have hkind : securityKind scheme.arranged = securityKind scheme := by
    rw [securityKind, securityKind, oauthKind_arranged]
    rfl
  rw [resolvedScheme, resolvedScheme, hkind]
  rfl

/-! ## Documents -/

/-- **What is resolved from a document is what is resolved from it arranged.** -/
theorem Document.resolved_arranged (document : Document) (options : ResolveOptions) :
    document.arranged.resolved options = document.resolved options := by
  have hgroups : document.arranged.rawGroups options = document.rawGroups options := by
    rw [rawGroups, rawGroups, Dialect.operations_arranged]
  have hschemes : (document.arranged.parts.securitySchemes.sorted.map fun entry =>
      resolvedScheme entry.1 entry.2) =
      document.parts.securitySchemes.sorted.map fun entry => resolvedScheme entry.1 entry.2 := by
    rw [parts_arranged, Components.arranged, Dict.sorted_ordered, Dict.sorted_map, List.map_map]
    exact List.map_congr_left fun entry _ => resolvedScheme_arranged entry.1 entry.2
  rw [resolved, resolved, Dialect.models_arranged, hgroups, hschemes]
  rfl

/-- **Documents that differ only in the order of their entries resolve to the same**, unless a
strict policy looks at the issues that validation finds. -/
theorem resolve_eq_of_sameEntries {document other : Document} {options : ResolveOptions}
    (hsame : document.SameEntries other)
    (hpolicy : options.skipValidation = true ∨ options.validation = .lenient) :
    ∃ api, document.resolve options = .ok api ∧ other.resolve options = .ok api := by
  have hpass (issues : List Issue) :
      (!options.skipValidation && options.validation.rejects issues) = false := by
    rcases hpolicy with hskip | hlenient
    · rw [hskip]
      rfl
    · rw [hlenient]
      exact Bool.and_false _
  have hresolve (source : Document) : source.resolve options = .ok (source.resolved options) := by
    rw [Document.resolve_eq, hpass]
    rfl
  refine ⟨document.resolved options, hresolve document, ?_⟩
  rw [hresolve other, ← other.resolved_arranged, ← hsame, document.resolved_arranged]

/-- Two operations of one tag with one id, and a schema with a branch that declares one of its
properties again; the maps come in an order of choice. -/
def shelfDocument (order : {α : Type} → List α → List α) : Document where
  openapi := "3.0.3"
  info := { title := "shelf", version := "1" }
  paths := Dict.ofEntries (order
    [("/books",
        { get := some
            { operationId := some "list"
              responses := Dict.ofEntries (order
                [("200", .reference "#/components/responses/Books"), ("404", .inline {})]) } }),
      ("/shelves", { get := some { operationId := some "list" } })])
  components := some
    { schemas := Dict.ofEntries (order
        [("Book", .inline
            { properties := order
                [("title", .inline { type := some (.single .string) }),
                  ("shelf", .reference "#/components/schemas/Shelf")]
              allOf := [.inline { properties := [("title", .inline {})] }] }),
          ("Shelf", .inline {})])
      responses := Dict.ofEntries [("Books", .inline {})] }

theorem resolve_eq_of_sameEntries_shelfDocument :
    (shelfDocument id).SameEntries (shelfDocument List.reverse)
      ∧ (shelfDocument id).paths.names = ["/books", "/shelves"]
      ∧ (shelfDocument List.reverse).paths.names = ["/shelves", "/books"]
      ∧ ∃ api, (shelfDocument id).resolve {} = .ok api
        ∧ (shelfDocument List.reverse).resolve {} = .ok api := by
  have hsame : (shelfDocument id).SameEntries (shelfDocument List.reverse) := by rfl
  exact ⟨hsame, rfl, rfl, resolve_eq_of_sameEntries hsame (Or.inr rfl)⟩

end OpenApi
