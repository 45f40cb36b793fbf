import Mathlib.Data.List.Perm.Basic
import OpenApi.Proofs.ParameterBuckets
import OpenApi.Proofs.Sorting
import OpenApi.Proofs.Validity

/-!
# Parts that are left out

Resolution leaves out a part of an operation when validation finds that its reference leads nowhere,
and for no other reason: both follow the same references, one in the order of the document and the
other in the order in which responses and headers are listed.

## Main definitions

* `Notice.badReference?`, `badReferences`: the issues that the parts left out amount to.
* `Issue.isBadReference`: the issues of references that lead nowhere.
* `PartsResolved`: every part of an operation is resolved.

## Main statements

* `badReferences_perm`: the parts left out are the issues found.
* `partsResolved_of_filter_issues`: without such an issue every part is resolved.
* `badReferences_operationNotices`: both, for the operations of a document.
-/
namespace OpenApi

/-! ## Reports and issues -/

/-- The place of a part of an operation at a location: a response has a place of its own. -/
def SkippedPart.place : SkippedPart → Location → Location
  | .response code, .operation method path => .response method path code
  | .header _ code, .operation method path => .response method path code
  | _, location => location

/-- The issue that a part left out amounts to. -/
def Notice.badReference? : Notice → Option Issue
  | .skipped location part e => some ⟨part.place location, .badReference e⟩
  | _ => none

/-- Whether an issue is a reference that leads nowhere. -/
def Issue.isBadReference : Issue → Bool
  | ⟨_, .badReference _⟩ => true
  | _ => false

/-- The issues that the parts left out amount to. -/
def badReferences (notices : List Notice) : List Issue := notices.filterMap Notice.badReference?

theorem badReferences_append (notices others : List Notice) :
    badReferences (notices ++ others) = badReferences notices ++ badReferences others :=
  List.filterMap_append

theorem badReferences_flatMap {ι : Type} (items : List ι) (report : ι → List Notice) :
    badReferences (items.flatMap report) = items.flatMap fun item => badReferences (report item) :=
  List.filterMap_flatMap

/-- Items of which each is reported when following it fails. -/
theorem badReferences_flatMap_eq {ι ε α : Type} {report : ι → List Notice}
    {result : ι → Except ε α} {issue : ε → Issue}
    (h : ∀ item, badReferences (report item) = (failures [result item]).map issue)
    (items : List ι) :
    badReferences (items.flatMap report) = (failures (items.map result)).map issue := by
  rw [badReferences_flatMap]
  induction items with
  | nil => rfl
  | cons item rest ih =>
    rw [List.flatMap_cons, ih, h, List.map_cons, ← List.map_append]
    cases result item <;> rfl

/-- Results of which the errors are reported, and nothing of the values. -/
theorem badReferences_results {ε α : Type} {report : Except ε α → List Notice} {issue : ε → Issue}
    (hok : ∀ value, badReferences (report (.ok value)) = [])
    (herror : ∀ e, badReferences (report (.error e)) = [issue e]) (results : List (Except ε α)) :
    badReferences (results.flatMap report) = (failures results).map issue := by
  have h : ∀ result, badReferences (report result) = (failures [result]).map issue := by
    intro result
    cases result with
    | ok value => exact hok value
    | error e => exact herror e
  rw [badReferences_flatMap_eq h, List.map_id']

/-! ## Reports on schemas -/

-- Structural on the schema, as its type is found.
mutual

theorem badReferences_propertyNotices (name : String) : ∀ schema : Referable Schema,
    badReferences (Dialect.propertyNotices name schema) = []
  | .reference _ => rfl
  | .inline schema => badReferences_schemaNotices name schema
termination_by structural schema => schema

theorem badReferences_schemaNotices (name : String) : ∀ schema : Schema,
    badReferences (Dialect.schemaNotices name schema) = []
  | ⟨keywords, properties, additional, items, allOf, oneOf, anyOf⟩ => by
    rw [Dialect.schemaNotices_eq]
    dsimp only
    split
    · cases items with
      | none => rfl
      | some schema => exact badReferences_propertyNotices _ schema
    · split
      · rfl
      · rcases additional with _ | (_ | schema)
        · rfl
        · rfl
        · exact badReferences_propertyNotices _ schema
    · split <;> rfl
    · rfl
    · rfl
termination_by structural schema => schema

end

theorem badReferences_optionalNotices (name : String) (schema : Option (Referable Schema)) :
    badReferences (Dialect.optionalNotices name schema) = [] := by
  cases schema with
  | none => rfl
  | some schema => exact badReferences_propertyNotices name schema

theorem badReferences_replacementNotices (operation : String) (seen : List String)
    (parameters : List Resolved.Parameter) :
    badReferences (replacementNotices operation seen parameters) = [] := by
  induction parameters generalizing seen with
  | nil => rfl
  | cons parameter rest ih =>
    simp only [replacementNotices]
    split
    · exact ih seen
    · exact ih _

/-! ## Reports on operations -/

section Perm

variable {document : Document} {dialect : Dialect} {aliases : Dict String}

theorem badReferences_contentNotices (name : String) (content : Dict MediaType) :
    badReferences (Dialect.contentNotices name content) = [] :=
  badReferences_optionalNotices name _

theorem badReferences_headerNotices (method : Method) (path code : String)
    (headers : List (String × Referable Header)) :
    badReferences (headers.flatMap
        (Dialect.headerNotices document (.operation method path) code)) =
      (failures (headers.map fun entry => document.header entry.2)).map
        (⟨.response method path code, .badReference ·⟩) := by
  refine badReferences_flatMap_eq (fun entry => ?_) headers
  rw [Dialect.headerNotices]
  cases document.header entry.2 with
  | ok header => exact badReferences_optionalNotices entry.1 header.schema
  | error e => rfl

/-- A response is reported as it is checked, but for the order of its headers. -/
theorem badReferences_responseNotices_perm (method : Method) (path : String)
    (entry : String × Referable Response) :
    (badReferences (Dialect.responseNotices document (.operation method path) entry)).Perm
      ((OperationSite.responseErrors document entry.2).map
        (⟨.response method path entry.1, .badReference ·⟩)) := by
  rw [Dialect.responseNotices, OperationSite.responseErrors]
  cases document.response entry.2 with
  | error e => exact .refl _
  | ok response =>
    dsimp only
    rw [badReferences_append, badReferences_contentNotices, badReferences_headerNotices,
      List.nil_append, Dict.values, List.map_map]
    exact ((response.headers.sorted_perm.map _).filterMap _).map _

/-- The issues of references of an operation, in the order of the document. -/
theorem filter_issues (document : Document) (site : OperationSite) :
    (site.issues document).filter Issue.isBadReference =
      (failures (site.parameters document)).map (⟨site.location, .badReference ·⟩)
      ++ (failures (site.requestBody document).toList).map (⟨site.location, .badReference ·⟩)
      ++ site.operation.responses.entries.flatMap fun entry =>
        (OperationSite.responseErrors document entry.2).map
          (⟨.response site.method site.path entry.1, .badReference ·⟩) := by
  simp [OperationSite.issues, List.filter_flatMap, List.filter_map, Function.comp_def,
    Issue.isBadReference]

/-- **The parts that resolution leaves out are the issues of references that validation finds**, for
each operation. -/
theorem badReferences_perm (site : OperationSite) :
    (badReferences (dialect.operationNotices document aliases site)).Perm
      ((site.issues document).filter Issue.isBadReference) := by
  have hparameters : badReferences ((site.parameters document).flatMap
        (Dialect.parameterNotices site.location)) =
      (failures (site.parameters document)).map (⟨site.location, .badReference ·⟩) :=
    badReferences_results (fun p => badReferences_optionalNotices p.name p.schema) (fun _ => rfl) _
  have hbody : badReferences ((site.requestBody document).toList.flatMap
        (Dialect.bodyNotices site.location)) =
      (failures (site.requestBody document).toList).map (⟨site.location, .badReference ·⟩) :=
    badReferences_results (fun body => badReferences_contentNotices _ body.content) (fun _ => rfl) _
  rw [filter_issues, Dialect.operationNotices, badReferences_append, badReferences_append,
    badReferences_append, badReferences_replacementNotices, List.append_nil,
    hparameters, hbody, badReferences_flatMap]
  refine List.Perm.append_left _ ?_
  refine (site.operation.responses.sorted_perm.flatMap_right _).trans ?_
  exact List.Perm.flatMap_left _ fun entry _ =>
    badReferences_responseNotices_perm site.method site.path entry

end Perm

/-! ## Documents without errors -/

section Results

variable {ι ε α β : Type} {items : List ι} {result : ι → Except ε α}

theorem ne_error_of_failures (h : failures (items.map result) = []) :
    ∀ item ∈ items, ∀ e, result item ≠ .error e := by
  intro item hitem e herror
  have hmem : e ∈ failures (items.map result) :=
    mem_failures_iff.2 (List.mem_map.2 ⟨item, hitem, herror⟩)
  rw [h] at hmem
  nomatch hmem

/-- What is made of items that can all be followed is made of every one of them. -/
theorem forall₂_filterMap_toOption (h : ∀ item ∈ items, ∀ e, result item ≠ .error e)
    (make : ι → α → β) :
    List.Forall₂ (fun item made => ∃ value, result item = .ok value ∧ made = make item value) items
      (items.filterMap fun item => (result item).toOption.map (make item)) := by
  induction items with
  | nil => exact .nil
  | cons item rest ih =>
    cases hitem : result item with
    | error e => exact absurd hitem (h item List.mem_cons_self e)
    | ok value =>
      rw [List.filterMap_cons, hitem]
      have hrest := ih fun other hmem => h other (List.mem_cons_of_mem item hmem)
      exact .cons ⟨value, hitem, rfl⟩ hrest

theorem forall₂_successes (h : failures (items.map result) = []) :
    List.Forall₂ (fun item value => result item = .ok value) items
      (successes (items.map result)) := by
  have hall := forall₂_filterMap_toOption (ne_error_of_failures h) fun _ value => value
  rw [successes, List.filterMap_map]
  simpa [Function.comp_def] using hall

end Results

/-- A response that is resolved with all its headers. -/
def ResponseResolved (dialect : Dialect) (document : Document)
    (entry : String × Referable Response) (resolved : Resolved.Response) : Prop :=
  ∃ response, document.response entry.2 = .ok response
    ∧ resolved = dialect.response document entry.1 response
    ∧ List.Forall₂ (fun source header => ∃ found, document.header source.2 = .ok found
        ∧ header = dialect.header source.1 found) response.headers.sorted resolved.headers

/-- Every part that a document gives an operation is resolved. -/
structure PartsResolved (dialect : Dialect) (document : Document) (aliases : Dict String)
    (site : OperationSite) : Prop where
  not_skipped : ∀ location part e,
    .skipped location part e ∉ dialect.operationNotices document aliases site
  /-- The parameters of the path, those of the operation and the body are all there, before those
  with one identifier are made one, and the identifier of each is among those of the operation. -/
  parameters : ∃ parameters body,
    List.Forall₂ (fun source parameter => document.parameter source = .ok parameter)
      (site.item.parameters ++ site.operation.parameters) parameters
    ∧ List.Forall₂ (fun source body => document.requestBody source = .ok body)
      site.operation.requestBody.toList body
    ∧ (dialect.operation document aliases site).parameters = distinctParameters
      (parameters.map dialect.parameter ++ body.filterMap dialect.bodyParameter)
    ∧ ∀ parameter ∈ parameters.map dialect.parameter ++ body.filterMap dialect.bodyParameter,
      parameter.names.identifier ∈
        identifiersOf (dialect.operation document aliases site).parameters
  responses : List.Forall₂ (ResponseResolved dialect document) site.operation.responses.sorted
    (dialect.operation document aliases site).responses

section Valid

variable {document : Document} {dialect : Dialect} {aliases : Dict String} {site : OperationSite}

theorem Document.Valid.filter_issues_eq_nil (h : document.Valid) (hsite : site ∈ document.sites) :
    (site.issues document).filter Issue.isBadReference = [] := by
  refine List.filter_eq_nil_iff.2 fun issue hmem hbad => ?_
  have herror : issue.isError = true := by
    obtain ⟨location, problem⟩ := issue
    cases problem with
    | badReference _ => rfl
    | _ => nomatch hbad
  exact h.not_mem_issues herror (document.mem_issues_of_site hsite hmem)

/-- A response without reference errors is resolved with all its headers. -/
theorem responseResolved {entry : String × Referable Response} {resolved : Resolved.Response}
    (h : OperationSite.responseErrors document entry.2 = [])
    (hmade : ∃ response, document.response entry.2 = .ok response
      ∧ resolved = dialect.response document entry.1 response) :
    ResponseResolved dialect document entry resolved := by
  obtain ⟨response, hresponse, rfl⟩ := hmade
  refine ⟨response, hresponse, rfl, ?_⟩
  rw [OperationSite.responseErrors, hresponse] at h
  dsimp only at h
  have hheaders : ∀ source ∈ response.headers.sorted, ∀ e, document.header source.2 ≠ .error e :=
    fun source hmem =>
      ne_error_of_failures h source.2 (List.mem_map_of_mem (mem_sortOn.1 hmem))
  exact forall₂_filterMap_toOption hheaders fun source header => dialect.header source.1 header

/-- Responses without reference errors are all resolved. -/
theorem forall₂_responseResolved {operation : Operation}
    (h : ∀ entry ∈ operation.responses.sorted,
      OperationSite.responseErrors document entry.2 = []) :
    List.Forall₂ (ResponseResolved dialect document) operation.responses.sorted
      (dialect.responses document operation) := by
  have hfound : ∀ entry ∈ operation.responses.sorted,
      ∀ e, document.response entry.2 ≠ .error e := by
    intro entry hmem e herror
    have hnil := h entry hmem
    rw [OperationSite.responseErrors, herror] at hnil
    nomatch hnil
  have hmade : List.Forall₂ (fun entry resolved => ∃ response,
      document.response entry.2 = .ok response
        ∧ resolved = dialect.response document entry.1 response)
      operation.responses.sorted (dialect.responses document operation) :=
    forall₂_filterMap_toOption hfound fun entry response =>
      dialect.response document entry.1 response
  have hboth := (List.forall₂_and_left _ _).2 ⟨h, hmade⟩
  exact hboth.imp fun entry resolved h => responseResolved h.1 h.2

/-- A body without a reference error is found. -/
theorem forall₂_requestBody (h : failures (site.requestBody document).toList = []) :
    List.Forall₂ (fun source body => document.requestBody source = .ok body)
      site.operation.requestBody.toList (successes (site.requestBody document).toList) := by
  have htoList : (site.requestBody document).toList =
      site.operation.requestBody.toList.map document.requestBody := by
    rw [OperationSite.requestBody]
    cases site.operation.requestBody <;> rfl
  rw [htoList] at h ⊢
  exact forall₂_successes h

/-- **Without an issue of a reference, every part of an operation is resolved.** -/
theorem partsResolved_of_filter_issues
    (h : (site.issues document).filter Issue.isBadReference = []) :
    PartsResolved dialect document aliases site := by
  have hnone : badReferences (dialect.operationNotices document aliases site) = [] :=
    List.Perm.eq_nil (h ▸ badReferences_perm site)
  rw [filter_issues, List.append_eq_nil_iff, List.append_eq_nil_iff, List.map_eq_nil_iff,
    List.map_eq_nil_iff, List.flatMap_eq_nil_iff] at h
  obtain ⟨⟨hparameters, hbody⟩, hresponses⟩ := h
  have herrors : ∀ entry ∈ site.operation.responses.sorted,
      OperationSite.responseErrors document entry.2 = [] := fun entry hmem =>
    List.map_eq_nil_iff.1 (hresponses entry (mem_sortOn.1 hmem))
  constructor
  case not_skipped =>
    intro location part e hmem
    have hbad : Issue.mk (part.place location) (.badReference e) ∈
        badReferences (dialect.operationNotices document aliases site) :=
      List.mem_filterMap.2 ⟨_, hmem, rfl⟩
    rw [hnone] at hbad
    nomatch hbad
  case parameters =>
    -- Parameters with one identifier are made one, but no identifier is lost.
    refine ⟨_, _, forall₂_successes hparameters, forall₂_requestBody hbody, rfl,
      fun parameter hmem => ?_⟩
    exact mem_identifiersOf_distinctParameters.2 (List.mem_map_of_mem hmem)
  case responses => exact forall₂_responseResolved herrors

/-- **Resolution leaves out exactly what validation finds**: for each operation, the parts that are
left out are the references that lead nowhere, and in a valid document there are none. -/
theorem badReferences_operationNotices (document : Document) (dialect : Dialect)
    (aliases : Dict String) :
    (∀ site ∈ document.sites,
      (badReferences (dialect.operationNotices document aliases site)).Perm
        ((site.issues document).filter Issue.isBadReference))
      ∧ (document.Valid → ∀ site ∈ document.sites,
        PartsResolved dialect document aliases site) :=
  ⟨fun site _ => badReferences_perm site,
    fun h _ hsite => partsResolved_of_filter_issues (h.filter_issues_eq_nil hsite)⟩

end Valid

/-- An operation with a parameter of its path and a response with a header, which refers to a
component. -/
def headedDocument (header : String) : Document where
  openapi := "3.0.3"
  info := { title := "pets", version := "1" }
  components := some
    { headers := Dict.ofEntries [("Rate", .inline {})]
      parameters := Dict.ofEntries [("Page", .inline { name := "page", location := .query })] }
  paths := Dict.ofEntries
    [("/pets",
      { parameters := [.reference "#/components/parameters/Page"]
        get := some
          { responses := Dict.ofEntries
              [("200", .inline
                { headers := Dict.ofEntries
                    [("X-Rate", .reference ("#/components/headers/" ++ header))] })] } })]

theorem badReferences_operationNotices_headedDocument :
    (headedDocument "Rate").Valid
      ∧ (headedDocument "Rate").sites.map OperationSite.endpoint = [("/pets", .get)]
      ∧ (∀ site ∈ (headedDocument "Rate").sites,
          PartsResolved {} (headedDocument "Rate") ∅ site)
      ∧ ((headedDocument "Gone").sites.flatMap (·.issues (headedDocument "Gone"))).filter
          Issue.isBadReference = [⟨.response .get "/pets" "200",
            .badReference (.targetNotFound "#/components/headers/Gone")⟩] := by
  have hvalid : (headedDocument "Rate").Valid := by decide +kernel
  exact ⟨hvalid, by decide +kernel, (badReferences_operationNotices _ {} ∅).2 hvalid,
    by decide +kernel⟩

end OpenApi
