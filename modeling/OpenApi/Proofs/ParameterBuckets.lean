import OpenApi.Proofs.ModelNames
import OpenApi.Proofs.Settling

/-!
# Parameters in their buckets

What becomes of the parameters of an operation. Of those with one identifier the last stays, in the
position of the first. All seven buckets are filled anew from what stays, the one of the body
included, so nothing is left of what they held before. In an operation of a document a parameter is
in one bucket only: all its bodies have one name, so at most one of them stays.

## Main definitions

* `ParametersSettled`: what becomes of the parameters of an operation.
* `Buckets.sentIn`: the bucket of a place.
* `EachInOneBucket`: no parameter is in two buckets of a place, or in none.

## Main statements

* `mem_distinctParameters_iff`: of the parameters with one identifier the last stays.
* `settleParameters_settleParameters`: settling once is enough.
* `parametersSettled_and_eachInOneBucket`: both, for all operations and for those of a document.
* `settleParameters_ne_of_givenBody`: the bucket of the body is not among what stays as it is.
-/
namespace OpenApi

open Resolved (Buckets ParameterPlace)

/-! ## The parameters that stay -/

/-- The identifiers of parameters. -/
def identifiersOf (parameters : List Resolved.Parameter) : List String :=
  parameters.map (·.names.identifier)

/-- The parameters under their identifiers. -/
def identified (parameters : List Resolved.Parameter) : List (String × Resolved.Parameter) :=
  parameters.map fun parameter => (parameter.names.identifier, parameter)

variable {parameters : List Resolved.Parameter}

theorem keys_identified (parameters : List Resolved.Parameter) :
    (identified parameters).map Prod.fst = identifiersOf parameters := by
  simp [identified, identifiersOf, Function.comp_def]

/-- Settling keeps each parameter under its identifier. -/
theorem identified_distinctParameters (parameters : List Resolved.Parameter) :
    identified (distinctParameters parameters) = settle (identified parameters) := by
  have hself : ∀ entry ∈ settle (identified parameters),
      (entry.2.names.identifier, entry.2) = entry := by
    intro entry hentry
    obtain ⟨parameter, _, rfl⟩ := List.mem_map.1 (mem_of_mem_settle hentry)
    rfl
  rw [identified, distinctParameters, List.map_map]
  exact (List.map_congr_left hself).trans (List.map_id _)

theorem identifiersOf_distinctParameters (parameters : List Resolved.Parameter) :
    identifiersOf (distinctParameters parameters) =
      (settle (identified parameters)).map Prod.fst := by
  rw [← keys_identified, identified_distinctParameters]

theorem mem_identifiersOf_distinctParameters {identifier : String} :
    identifier ∈ identifiersOf (distinctParameters parameters) ↔
      identifier ∈ identifiersOf parameters := by
  rw [identifiersOf_distinctParameters, mem_keys_settle, keys_identified]

theorem nodup_identifiersOf_distinctParameters (parameters : List Resolved.Parameter) :
    (identifiersOf (distinctParameters parameters)).Nodup := by
  rw [identifiersOf_distinctParameters]
  exact nodup_keys_settle _

/-- The parameter that is kept for an identifier is the last one that has it. -/
theorem lookup_settle_identified (parameters : List Resolved.Parameter) (identifier : String) :
    (settle (identified parameters)).lookup identifier =
      (parameters.filter (·.names.identifier == identifier)).getLast? := by
  rw [lookup_settle, identified, List.filter_map, List.getLast?_map]
  simp [Function.comp_def]

/-- **Of the parameters with one identifier the last stays**, and only that one. -/
theorem mem_distinctParameters_iff {parameter : Resolved.Parameter} :
    parameter ∈ distinctParameters parameters ↔
      (parameters.filter (·.names.identifier == parameter.names.identifier)).getLast? =
        some parameter := by
  rw [← lookup_settle_identified, Dict.lookup_eq_some_iff (nodup_keys_settle _)]
  constructor
  · intro h
    rw [← identified_distinctParameters]
    exact List.mem_map_of_mem h
  · exact fun h => List.mem_map_of_mem (f := Prod.snd) h

/-- The only parameter with an identifier stays. -/
theorem mem_distinctParameters_of_only {only : Resolved.Parameter} (hmem : only ∈ parameters)
    (honly : ∀ parameter ∈ parameters,
      parameter.names.identifier = only.names.identifier → parameter = only) :
    only ∈ distinctParameters parameters := by
  rw [mem_distinctParameters_iff]
  set found := parameters.filter (·.names.identifier == only.names.identifier) with hfound
  have hne : found ≠ [] :=
    List.ne_nil_of_mem (List.mem_filter.2 ⟨hmem, beq_self_eq_true _⟩)
  obtain ⟨hkept, hsame⟩ := List.mem_filter.1 (List.getLast_mem hne)
  rw [List.getLast?_eq_getLast_of_ne_nil hne, honly _ hkept (by simpa using hsame)]

/-- Parameters with distinct identifiers all stay. -/
theorem distinctParameters_distinctParameters (parameters : List Resolved.Parameter) :
    distinctParameters (distinctParameters parameters) = distinctParameters parameters := by
  have hsettled : settle (identified (distinctParameters parameters)) =
      settle (identified parameters) := by
    rw [identified_distinctParameters]
    exact settle_eq_self (nodup_keys_settle _)
  rw [distinctParameters, ← identified, hsettled, distinctParameters, ← identified]

/-! ## The buckets -/

/-- The parameters in the bucket of a place. -/
def Resolved.Buckets.sentIn (buckets : Buckets) : ParameterPlace → List Resolved.Parameter
  | .path => buckets.path
  | .query => buckets.query
  | .header => buckets.header
  | .cookie => buckets.cookie
  | .body => buckets.body.toList

/-- The bucket of a place that is not the body holds the parameters that are sent there. -/
theorem sentIn_of {place : ParameterPlace} (h : place ≠ .body)
    (parameters : List Resolved.Parameter) :
    (Buckets.of parameters).sentIn place = parameters.filter (·.place == place) := by
  cases place with
  | body => exact absurd rfl h
  | _ => rfl

/-- The parameters in the bucket of a place are sent there. -/
theorem place_of_mem_sentIn {place : ParameterPlace} {parameter : Resolved.Parameter}
    (h : parameter ∈ (Buckets.of parameters).sentIn place) : parameter.place = place := by
  by_cases hbody : place = .body
  · subst hbody
    have hfound : parameters.find? (·.place == .body) = some parameter := Option.mem_toList.1 h
    simpa using List.find?_some hfound
  · rw [sentIn_of hbody] at h
    simpa using (List.mem_filter.1 h).2

/-- Settling once is enough. -/
theorem settleParameters_settleParameters (operation : Resolved.Operation) :
    operation.settleParameters.settleParameters = operation.settleParameters := by
  simp only [Resolved.Operation.settleParameters, distinctParameters_distinctParameters]

/-! ## Operations -/

/-- What becomes of the parameters of an operation: `after` is the operation with each parameter
once. Eight fields are filled anew, whatever they held in `before`: the list of parameters and the
buckets of the four places, of the body, of the required and of the optional parameters. -/
structure ParametersSettled (before after : Resolved.Operation) : Prop where
  mem_identifiers : ∀ identifier,
    identifier ∈ identifiersOf after.parameters ↔ identifier ∈ identifiersOf before.parameters
  /-- Each identifier is there once, in the order in which they first came. -/
  pairwise_idxOf : (identifiersOf after.parameters).Pairwise fun first second =>
    (identifiersOf before.parameters).idxOf first < (identifiersOf before.parameters).idxOf second
  /-- A parameter is the last one with its identifier. -/
  last : ∀ parameter ∈ after.parameters,
    (before.parameters.filter (·.names.identifier == parameter.names.identifier)).getLast? =
      some parameter
  /-- The bucket of each place holds the parameters that are sent there, in their order. -/
  sentIn : ∀ place, place ≠ .body →
    after.buckets.sentIn place = after.parameters.filter (·.place == place)
  /-- The bucket of the body holds the first one. -/
  body : after.buckets.body = after.parameters.find? (·.place == .body)
  required : after.buckets.required = after.parameters.filter (·.required)
  optional : after.buckets.optional = after.parameters.filter (!·.required)
  /-- Nothing but the list of parameters and the seven buckets changes. -/
  frame : after = { before with parameters := after.parameters, buckets := after.buckets }
  again : after.settleParameters = after

theorem parametersSettled (operation : Resolved.Operation) :
    ParametersSettled operation operation.settleParameters where
  mem_identifiers := fun _ => mem_identifiersOf_distinctParameters
  pairwise_idxOf := by
    have hpairwise := pairwise_idxOf_settle (identified operation.parameters)
    rw [← identifiersOf_distinctParameters, keys_identified] at hpairwise
    exact hpairwise
  last := fun _ hmem => mem_distinctParameters_iff.1 hmem
  sentIn := fun _ hplace => sentIn_of hplace _
  body := rfl
  required := rfl
  optional := rfl
  frame := rfl
  again := settleParameters_settleParameters operation

/-- Each parameter of an operation is in the bucket of one place, and those of the path are also
among the required ones. -/
structure EachInOneBucket (operation : Resolved.Operation) : Prop where
  existsUnique_place : ∀ parameter ∈ operation.parameters,
    ∃! place, parameter ∈ operation.buckets.sentIn place
  required_of_path : ∀ parameter ∈ operation.buckets.path, parameter ∈ operation.buckets.required

section Declared

variable {dialect : Dialect} {document : Document} {site : OperationSite}
  {parameter : Resolved.Parameter}

/-- No parameter of a document is sent as a body. -/
theorem ParameterLocation.place_ne_body (location : ParameterLocation) :
    location.place ≠ .body := by
  cases location <;> decide

/-- Only a body is sent as one, and every body has the same identifier. -/
theorem identifier_of_place_body (h : parameter ∈ dialect.declaredParameters document site)
    (hplace : parameter.place = .body) : parameter.names.identifier = Dialect.bodyName := by
  rcases Dialect.mem_declaredParameters_iff.1 h with ⟨source, -, rfl⟩ | ⟨body, -, heq⟩
  · exact absurd hplace source.location.place_ne_body
  · obtain ⟨entry, -, rfl⟩ := Option.map_eq_some_iff.1 heq
    rfl

theorem required_of_place_path (h : parameter ∈ dialect.declaredParameters document site)
    (hplace : parameter.place = .path) : parameter.required = true := by
  rcases Dialect.mem_declaredParameters_iff.1 h with ⟨source, -, rfl⟩ | ⟨body, -, heq⟩
  · have hlocation : source.location = .path := by
      cases hsource : source.location with
      | path => rfl
      | _ => simp [Dialect.parameter, hsource, ParameterLocation.place] at hplace
    simp [Dialect.parameter, hlocation]
  · obtain ⟨entry, -, rfl⟩ := Option.map_eq_some_iff.1 heq
    nomatch hplace

/-- A body that stays is the one in the bucket: another would have its identifier. -/
theorem find?_place_body
    (h : parameter ∈ distinctParameters (dialect.declaredParameters document site))
    (hplace : parameter.place = .body) :
    (distinctParameters (dialect.declaredParameters document site)).find? (·.place == .body) =
      some parameter := by
  set kept := distinctParameters (dialect.declaredParameters document site) with hkept
  have hsome : (kept.find? (·.place == .body)).isSome :=
    List.find?_isSome.2 ⟨parameter, h, by simp [hplace]⟩
  obtain ⟨found, hfound⟩ := Option.isSome_iff_exists.1 hsome
  have hmem : found ∈ kept := List.mem_of_find?_eq_some hfound
  have hbody : found.place = .body := by simpa using List.find?_some hfound
  have hsame : found.names.identifier = parameter.names.identifier := by
    rw [identifier_of_place_body (mem_of_mem_distinctParameters hmem) hbody,
      identifier_of_place_body (mem_of_mem_distinctParameters h) hplace]
  have hnodup := nodup_identifiersOf_distinctParameters (dialect.declaredParameters document site)
  rw [hfound, List.inj_on_of_nodup_map hnodup hmem h hsame]

theorem eachInOneBucket (dialect : Dialect) (document : Document) (aliases : Dict String)
    (site : OperationSite) : EachInOneBucket (dialect.operation document aliases site) := by
  constructor
  case existsUnique_place =>
    intro parameter hmem
    refine ⟨parameter.place, ?_, fun place hplace => (place_of_mem_sentIn hplace).symm⟩
    by_cases hbody : parameter.place = .body
    · rw [hbody]
      exact Option.mem_toList.2 (find?_place_body hmem hbody)
    · have hsent := sentIn_of hbody
        (distinctParameters (dialect.declaredParameters document site))
      have hfilter : parameter ∈
          (distinctParameters (dialect.declaredParameters document site)).filter
            (·.place == parameter.place) :=
        List.mem_filter.2 ⟨hmem, beq_self_eq_true _⟩
      rw [← hsent] at hfilter
      exact hfilter
  case required_of_path =>
    intro parameter hmem
    obtain ⟨hkept, hplace⟩ := List.mem_filter.1 hmem
    have hrequired : parameter.required = true :=
      required_of_place_path (mem_of_mem_distinctParameters hkept) (by simpa using hplace)
    exact List.mem_filter.2 ⟨hkept, hrequired⟩

end Declared

/-- **Parameters are settled by their identifiers**: whatever an operation held, and whatever was in
its buckets. **Each parameter of a resolved operation is in one bucket.** -/
theorem parametersSettled_and_eachInOneBucket :
    (∀ operation : Resolved.Operation, ParametersSettled operation operation.settleParameters)
      ∧ ∀ (dialect : Dialect) (document : Document) (aliases : Dict String) (site : OperationSite),
        EachInOneBucket (dialect.operation document aliases site) :=
  ⟨parametersSettled, eachInOneBucket⟩

/-- A body of plain text. -/
def noteBody : RequestBody where
  content := Dict.ofEntries
    [("text/plain", { schema := some (.inline { type := some (.single .string) }) })]

/-- An operation that was given a body: its buckets do not hold it yet. -/
def givenBodyOperation : Resolved.Operation where
  names := .of "listNotes"
  path := "/notes"
  method := .get
  tag := "default"
  tags := ["default"]
  parameters := (Dialect.bodyParameter {} noteBody).toList

/-- The bucket of the body is filled anew like the others: it is not the case that everything stays
but the list of parameters and the other six buckets. -/
theorem settleParameters_ne_of_givenBody :
    givenBodyOperation.buckets.body = none
      ∧ givenBodyOperation.settleParameters.buckets.body = Dialect.bodyParameter {} noteBody
      ∧ ¬∀ operation : Resolved.Operation, operation.settleParameters =
        { operation with
          parameters := operation.settleParameters.parameters
          buckets :=
            { operation.settleParameters.buckets with body := operation.buckets.body } } := by
  have hnone : givenBodyOperation.buckets.body = none := rfl
  have hfilled : givenBodyOperation.settleParameters.buckets.body =
      Dialect.bodyParameter {} noteBody := rfl
  refine ⟨hnone, hfilled, fun hunchanged => ?_⟩
  have hkept : givenBodyOperation.settleParameters.buckets.body = givenBodyOperation.buckets.body :=
    congrArg (·.buckets.body) (hunchanged givenBodyOperation)
  rw [hfilled, hnone] at hkept
  nomatch hkept

end OpenApi
