import OpenApi.Proofs.References
import OpenApi.Proofs.Sites
import OpenApi.Resolution.Document

/-!
# Documents without errors

What a document promises when validation finds no error in it: every path to a schema, in a
component or in an operation, names a component schema, and so does every path in what a
chain comes to.

## Main definitions

* `Document.Valid`: validation finds no error.

## Main statements

* `Valid.hasSchema_of_mem_usedPaths`: the paths that an operation uses name component schemas.
* `Valid.hasSchema_of_mem_paths`: so do the paths in the body of a component schema.
* `Valid.resolve_eq`: a valid document is resolved, whatever the policy.
-/
namespace OpenApi

/-- Validation finds no error in the document. -/
def Document.Valid (document : Document) : Prop :=
  ∀ issue ∈ document.issues, issue.isError = false

variable {document : Document} {path : String}

/-- The problems of component schemas are errors, at component schemas. -/
theorem error_of_mem_schemaIssues {issue : Issue}
    (h : issue ∈ document.schemas.entries.flatMap fun entry =>
      schemaIssues document entry.1 entry.2) :
    issue.severity = .error ∧ ∃ name, issue.location = .schema name := by
  obtain ⟨entry, _, hissue⟩ := List.mem_flatMap.1 h
  obtain ⟨path, _, rfl⟩ := List.mem_map.1 hissue
  exact ⟨rfl, entry.1, rfl⟩

/-- Schemas that are not used are warnings, at component schemas. -/
theorem warning_of_mem_unused {issue : Issue}
    (h : issue ∈ document.unusedSchemas.map fun name => ⟨.schema name, .unusedModel name⟩) :
    issue.severity = .warning ∧ ∃ name, issue.location = .schema name := by
  obtain ⟨name, _, rfl⟩ := List.mem_map.1 h
  exact ⟨rfl, name, rfl⟩

/-- Schemas that are not used are no errors. -/
theorem Document.valid_iff : document.Valid ↔
    (∀ entry ∈ document.schemas.entries, ∀ issue ∈ schemaIssues document entry.1 entry.2,
        issue.isError = false)
      ∧ ∀ issue ∈ siteIssues document [] document.sites, issue.isError = false := by
  have hunused : ∀ issue ∈ document.unusedSchemas.map (fun name =>
      Issue.mk (.schema name) (.unusedModel name)), issue.isError = false := by
    intro issue hmem
    rw [Issue.isError, (warning_of_mem_unused hmem).1]
    rfl
  rw [Valid, issues, List.forall_mem_append, List.forall_mem_append, List.forall_mem_flatMap]
  exact and_iff_left hunused

instance (document : Document) : Decidable document.Valid :=
  decidable_of_iff _ Document.valid_iff.symm

/-- The problems of each operation are among those of all, whatever ids came before. -/
theorem mem_siteIssues {issue : Issue} {site : OperationSite} {sites : List OperationSite}
    (hsite : site ∈ sites) (h : issue ∈ site.issues document) (seen : List (String × Location)) :
    issue ∈ siteIssues document seen sites := by
  induction sites generalizing seen with
  | nil => nomatch hsite
  | cons first rest ih =>
    rw [siteIssues]
    rcases List.mem_cons.1 hsite with rfl | hrest
    · exact List.mem_append_left _ h
    · refine List.mem_append_right _ ?_
      split
      · exact ih hrest seen
      · split
        · exact List.mem_cons_of_mem _ (ih hrest seen)
        · exact ih hrest _

/-- A problem among those of all operations is one of an operation by itself, or an id
that repeats. -/
theorem exists_site_of_mem_siteIssues {issue : Issue} {sites : List OperationSite}
    {seen : List (String × Location)} (h : issue ∈ siteIssues document seen sites) :
    ∃ site ∈ sites, issue ∈ site.issues document
      ∨ ∃ id first, issue = ⟨site.location, .duplicateOperationId id first⟩ := by
  induction sites generalizing seen with
  | nil => nomatch h
  | cons site rest ih =>
    have hrest {seen : List (String × Location)} (h : issue ∈ siteIssues document seen rest) :
        ∃ other ∈ site :: rest, issue ∈ other.issues document
          ∨ ∃ id first, issue = ⟨other.location, .duplicateOperationId id first⟩ := by
      obtain ⟨other, hother, hissue⟩ := ih h
      exact ⟨other, List.mem_cons_of_mem site hother, hissue⟩
    rw [siteIssues] at h
    rcases List.mem_append.1 h with h | h
    · exact ⟨site, List.mem_cons_self, .inl h⟩
    · split at h
      · exact hrest h
      · split at h
        · rcases List.mem_cons.1 h with heq | h
          · exact ⟨site, List.mem_cons_self, .inr ⟨_, _, heq⟩⟩
          · exact hrest h
        · exact hrest h

/-- The problems of operations are errors, and none is at a component schema. -/
theorem error_of_mem_siteIssues {issue : Issue} {sites : List OperationSite}
    {seen : List (String × Location)} (h : issue ∈ siteIssues document seen sites) :
    issue.severity = .error ∧ ∀ name, issue.location ≠ .schema name := by
  obtain ⟨site, -, hissue | ⟨id, first, rfl⟩⟩ := exists_site_of_mem_siteIssues h
  · simp only [OperationSite.issues, List.mem_append, List.mem_map, List.mem_flatMap] at hissue
    obtain (((⟨_, _, rfl⟩ | ⟨_, _, rfl⟩) | ⟨_, _, rfl⟩) | ⟨_, _, _, _, rfl⟩) | ⟨_, _, rfl⟩ :=
      hissue <;> exact ⟨rfl, fun _ => Location.noConfusion⟩
  · exact ⟨rfl, fun _ => Location.noConfusion⟩

theorem Document.mem_issues_of_site {issue : Issue} {site : OperationSite}
    (hsite : site ∈ document.sites) (h : issue ∈ site.issues document) :
    issue ∈ document.issues :=
  List.mem_append_left _ (List.mem_append_right _ (mem_siteIssues hsite h []))

namespace Document.Valid

theorem not_mem_issues (h : document.Valid) {issue : Issue} (herror : issue.isError = true) :
    issue ∉ document.issues := by
  intro hmem
  rw [h issue hmem] at herror
  nomatch herror

/-- The paths in a component schema name component schemas. -/
theorem hasSchema_of_mem_schemaPaths (h : document.Valid) {name : String}
    {schema : Referable Schema} (hschema : document.schemas.get? name = some schema)
    (hpath : path ∈ schemaPaths schema) : document.hasSchema path = true := by
  by_contra hmissing
  have hissue : Issue.mk (.schema name) (.unresolvedSchema path) ∈ document.issues := by
    refine List.mem_append_left _ (List.mem_append_left _ (List.mem_flatMap.2 ?_))
    refine ⟨(name, schema), Dict.mem_entries_iff.2 hschema, List.mem_map_of_mem ?_⟩
    exact List.mem_filter.2 ⟨hpath, by simpa using hmissing⟩
  exact h.not_mem_issues rfl hissue

/-- **The paths that an operation uses name component schemas.** -/
theorem hasSchema_of_mem_usedPaths (h : document.Valid) {site : OperationSite}
    (hsite : site ∈ document.sites) (hpath : path ∈ site.usedPaths document) :
    document.hasSchema path = true := by
  by_contra hmissing
  have hissue : Issue.mk site.location (.unresolvedSchema path) ∈ site.issues document := by
    refine List.mem_append_right _ (List.mem_map_of_mem ?_)
    exact List.mem_filter.2 ⟨hpath, by simpa using hmissing⟩
  exact h.not_mem_issues rfl (document.mem_issues_of_site hsite hissue)

/-- **The paths in the body of a component schema name component schemas**, also when the component
leads to its body through others. -/
theorem hasSchema_of_mem_paths (h : document.Valid) {name : String} {schema : Referable Schema}
    {body : Schema} (hschema : document.schemas.get? name = some schema)
    (hbody : document.schema schema = .ok body) (hpath : path ∈ body.paths) :
    document.hasSchema path = true := by
  rcases follow_eq_ok hbody with rfl | ⟨other, hother⟩
  · exact h.hasSchema_of_mem_schemaPaths hschema hpath
  · exact h.hasSchema_of_mem_schemaPaths hother hpath

/-- A valid document is resolved, whatever the policy. -/
theorem resolve_eq (h : document.Valid) (options : ResolveOptions) :
    document.resolve options = .ok (document.resolved options) := by
  have hno : document.issues.any Issue.isError = false :=
    List.any_eq_false.2 fun issue hmem => by simp [h issue hmem]
  rw [Document.resolve_eq, Policy.rejects, hno]
  simp

end Document.Valid

end OpenApi
