import OpenApi.Command.Run
import OpenApi.Proofs.Validity

/-!
# Validation as a gate

Validation lets a document through to resolution or stops it, and has no other part in what comes
out: neither the policy nor leaving validation out changes the resolved API of a document that is
let through. The command that validates counts errors itself and then resolves without validation,
the command that inspects leaves both to resolution; they stop the same documents and resolve the
others to the same API.

## Main definitions

* `Document.Stopped`: validation stops a document.
* `Gated`: what validation does to the resolution of a document.
* `RoutesAgree`: the two commands treat a document in the same way.

## Main statements

* `Document.resolve_eq_ite`, `Document.check_eq_ite`: when a document is resolved and checked,
  and to what.
* `gated_and_routesAgree`: validation is a gate, for every choice and for both commands.
-/
namespace OpenApi

open Command (Failure Format Outcome inspected validated)
open Resolved (Api)

/-! ## Errors -/

section Issues

variable {issues : List Issue}

theorem Policy.rejects_iff {policy : Policy} :
    policy.rejects issues = true ↔
      policy = .strict ∧ ∃ issue ∈ issues, issue.severity = .error := by
  simp [Policy.rejects, Issue.isError]

/-- To count the errors is to look for one. -/
theorem errorCount_pos_iff :
    0 < errorCount issues ↔ ∃ issue ∈ issues, issue.severity = .error := by
  simp [errorCount, List.countP_pos_iff, Issue.isError]

end Issues

/-! ## The gate of resolution -/

/-- Validation stops a document: it is not skipped, the policy is strict, and it finds an error. -/
def Document.Stopped (document : Document) (policy : Policy) (skipValidation : Bool) : Prop :=
  skipValidation = false ∧ policy = .strict ∧ ∃ issue ∈ document.issues, issue.severity = .error

/-- What stops a document makes it invalid. -/
theorem Document.stopped_iff {document : Document} {policy : Policy} {skipValidation : Bool} :
    document.Stopped policy skipValidation ↔
      skipValidation = false ∧ policy = .strict ∧ ¬document.Valid := by
  simp [Stopped, Valid, Issue.isError]

instance (document : Document) (policy : Policy) (skipValidation : Bool) :
    Decidable (document.Stopped policy skipValidation) :=
  decidable_of_iff _ Document.stopped_iff.symm

/-- The choices with another policy, and with validation skipped or not. -/
def ResolveOptions.withGate (options : ResolveOptions) (policy : Policy) (skipValidation : Bool) :
    ResolveOptions :=
  { options with validation := policy, skipValidation }

/-- A document is resolved unless validation stops it. -/
theorem Document.resolve_eq_ite (document : Document) (options : ResolveOptions) :
    document.resolve options =
      if document.Stopped options.validation options.skipValidation then
        .error (.validation document.issues)
      else .ok (document.resolved options) := by
  have hgate : (!options.skipValidation && options.validation.rejects document.issues) = true ↔
      document.Stopped options.validation options.skipValidation := by
    rw [Bool.and_eq_true, Bool.not_eq_true', Policy.rejects_iff, Stopped]
  simp only [resolve_eq, hgate]

/-- What validation does to the resolution of a document. -/
structure Gated (document : Document) (options : ResolveOptions) : Prop where
  fails_iff : ∀ policy skipValidation,
    (∃ e, document.resolve (options.withGate policy skipValidation) = .error e) ↔
      document.Stopped policy skipValidation
  /-- A failure holds what validation finds. -/
  eq_issues : ∀ policy skipValidation e,
    document.resolve (options.withGate policy skipValidation) = .error e →
      e = .validation document.issues
  /-- All choices that let the document through resolve it to one API. -/
  same_api : ∃ api, ∀ policy skipValidation, ¬document.Stopped policy skipValidation →
    document.resolve (options.withGate policy skipValidation) = .ok api

theorem gated (document : Document) (options : ResolveOptions) : Gated document options := by
  have hresolve (policy : Policy) (skipValidation : Bool) :
      document.resolve (options.withGate policy skipValidation) =
        if document.Stopped policy skipValidation then .error (.validation document.issues)
        else .ok (document.resolved options) :=
    document.resolve_eq_ite (options.withGate policy skipValidation)
  constructor
  case fails_iff =>
    intro policy skipValidation
    rw [hresolve]
    split <;> simp [*]
  case eq_issues =>
    intro policy skipValidation e he
    rw [hresolve] at he
    split at he
    · exact (Except.error.inj he).symm
    · nomatch he
  case same_api =>
    exact ⟨document.resolved options, fun policy skipValidation hpassed => by
      rw [hresolve, if_neg hpassed]⟩

/-! ## The gate of the commands -/

section Commands

variable (document : Document) (settings : Settings)

/-- A document is checked by counting errors, and then resolved as without validation. -/
theorem Document.check_eq_ite :
    document.check settings =
      if document.Stopped settings.validation false then
        .error (.invalid (errorCount document.issues))
      else .ok (document.issues, document.resolved (.ofSettings settings)) := by
  have hcounted : (decide (0 < errorCount document.issues) && settings.validation == .strict) =
      decide (document.Stopped settings.validation false) := by
    rw [Bool.eq_iff_iff]
    simp [Document.Stopped, errorCount_pos_iff, and_comm]
  have hresolve : document.resolveWith
        { ResolveOptions.ofSettings settings with skipValidation := true } =
      .ok (document.resolved (.ofSettings settings)) := by
    rw [Document.resolveWith, document.resolve_eq_ok (Or.inl rfl)]
    rfl
  rw [Document.check, hcounted, hresolve]
  by_cases hstopped : document.Stopped settings.validation false
  · rw [if_pos hstopped, if_pos (decide_eq_true hstopped)]
    rfl
  · rw [if_neg hstopped, if_neg (by simpa using hstopped)]
    rfl

/-- The choices of a project leave validation in. -/
theorem Document.resolve_ofSettings_eq_ite :
    document.resolve (.ofSettings settings) =
      if document.Stopped settings.validation false then .error (.validation document.issues)
      else .ok (document.resolved (.ofSettings settings)) :=
  document.resolve_eq_ite (.ofSettings settings)

theorem Document.resolveWith_eq_ite :
    document.resolveWith (.ofSettings settings) =
      if document.Stopped settings.validation false then .error .notResolved
      else .ok (document.resolved (.ofSettings settings)) := by
  rw [Document.resolveWith, Document.resolve_ofSettings_eq_ite]
  by_cases hstopped : document.Stopped settings.validation false
  · rw [if_pos hstopped, if_pos hstopped]
  · rw [if_neg hstopped, if_neg hstopped]

/-- The command that validates and the command that inspects treat a document in the same way. -/
structure RoutesAgree : Prop where
  /-- The check fails exactly when resolution does. -/
  fails_iff : (∃ failure, document.check settings = .error failure) ↔
    ∃ e, document.resolve (.ofSettings settings) = .error e
  /-- Its failure counts the errors, of which there is one. -/
  eq_invalid : ∀ failure, document.check settings = .error failure →
    failure = .invalid (errorCount document.issues) ∧ 0 < errorCount document.issues
  /-- Otherwise it gives what validation finds, and the API that resolution gives. -/
  same_api : ∀ issues api, document.check settings = .ok (issues, api) ↔
    issues = document.issues ∧ document.resolve (.ofSettings settings) = .ok api
  /-- So one command fails exactly when the other does. -/
  commands_fail_iff : ∀ format summary, (validated document settings).failure.isSome ↔
    ∃ failure, inspected document settings format summary = .error failure

variable {document settings}

theorem routesAgree : RoutesAgree document settings := by
  have hcheck := document.check_eq_ite settings
  have hresolve := document.resolve_ofSettings_eq_ite settings
  have hwith := document.resolveWith_eq_ite settings
  by_cases hstopped : document.Stopped settings.validation false
  case pos =>
    rw [if_pos hstopped] at hcheck hresolve hwith
    constructor
    case fails_iff => simp [hcheck, hresolve]
    case eq_invalid =>
      intro failure hfailure
      exact ⟨(Except.error.inj (hcheck.symm.trans hfailure)).symm,
        errorCount_pos_iff.2 hstopped.2.2⟩
    case same_api => simp [hcheck, hresolve]
    case commands_fail_iff =>
      intro format summary
      refine iff_of_true ?_ ⟨.notResolved, ?_⟩
      · simp [validated, hcheck]
      · rw [inspected, hwith]
        rfl
  case neg =>
    rw [if_neg hstopped] at hcheck hresolve hwith
    constructor
    case fails_iff => simp [hcheck, hresolve]
    case eq_invalid => simp [hcheck]
    case same_api => simp [hcheck, hresolve, eq_comm]
    case commands_fail_iff =>
      intro format summary
      refine iff_of_false ?_ ?_
      · simp [validated, hcheck]
      · rw [inspected, hwith]
        rintro ⟨failure, hfailure⟩
        nomatch hfailure

end Commands

/-- **Validation is a gate**: it stops a document or lets it through to the one API that all choices
resolve it to, and the commands that validate and inspect agree on this under the settings of any
project. -/
theorem gated_and_routesAgree (document : Document) (options : ResolveOptions) :
    Gated document options ∧ ∀ settings, RoutesAgree document settings :=
  ⟨gated document options, fun _ => routesAgree⟩

/-- An operation at a path with a variable, and a schema that it does not use. -/
def gatedDocument (parameters : List (Referable Parameter)) : Document where
  openapi := "3.0.3"
  info := { title := "pets", version := "1" }
  components := some { schemas := Dict.ofEntries [("Pet", .inline {})] }
  paths := Dict.ofEntries [("/pets/\x7bpetId\x7d", { parameters, get := some {} })]

/-- Under a strict policy an error stops a document, and a schema that is not used does not. -/
example :
    (gatedDocument []).Stopped .strict false
      ∧ ¬(gatedDocument []).Stopped .strict true
      ∧ ¬(gatedDocument []).Stopped .lenient false
      ∧ ¬(gatedDocument [.inline { name := "petId", location := .path }]).Stopped
        .strict false := by
  decide +kernel

end OpenApi
