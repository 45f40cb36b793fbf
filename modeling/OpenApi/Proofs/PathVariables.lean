import OpenApi.Proofs.ReferenceChains
import OpenApi.Proofs.Validity

/-!
# Variables of paths

A path is literal text with variables in braces between its parts. The variables are found in the
order in which they stand, also when they are empty, stand side by side, or follow a closing brace
that closes nothing. Each place where a variable stands is reported unless a parameter that is sent
in the path has its name.

## Main definitions

* `TemplatePart`, `PathTemplate`: the paths that are made of literal texts and variables.
* `NamesPathParameter`: a parameter that is sent in the path of an operation has the name.
* `Issue.isUnmatchedAt`: the issues of an operation's variables.

## Main statements

* `templateVariables_text`: the variables of a path are found in order.
* `Document.filter_unmatched_issues`: what validation reports of the variables of an operation.
* `templateVariables_and_unmatched_issues`: both, for an operation at a path of this form.
-/
namespace OpenApi

/-! ## Templates -/

/-- A variable in braces and the literal text in front of it. -/
structure TemplatePart where
  literal : List Char
  variableName : List Char
  opening_notMem_literal : '\x7b' ∉ literal
  opening_notMem_variableName : '\x7b' ∉ variableName
  closing_notMem_variableName : '\x7d' ∉ variableName

/-- The text of a part. -/
def TemplatePart.text (part : TemplatePart) : List Char :=
  part.literal ++ '\x7b' :: (part.variableName ++ ['\x7d'])

/-- A path of literal texts and variables. -/
structure PathTemplate where
  parts : List TemplatePart
  /-- The literal text behind the last variable. -/
  ending : List Char
  opening_notMem_ending : '\x7b' ∉ ending

namespace PathTemplate

/-- The text of a path. -/
def text (template : PathTemplate) : List Char :=
  template.parts.flatMap TemplatePart.text ++ template.ending

/-- The variables of a path, in order. -/
def variableNames (template : PathTemplate) : List (List Char) :=
  template.parts.map (·.variableName)

end PathTemplate

/-! ## Finding variables -/

section Variables

variable {literal name : List Char}

/-- Literal text holds no variable. -/
theorem templateVariables_append (hliteral : '\x7b' ∉ literal) (rest : List Char) :
    templateVariables (literal ++ rest) = templateVariables rest := by
  induction literal with
  | nil => rfl
  | cons c literal ih =>
    obtain ⟨hc, hrest⟩ : '\x7b' ≠ c ∧ '\x7b' ∉ literal := by simpa using hliteral
    rw [List.cons_append, templateVariables, if_neg hc.symm, ih hrest]

/-- The text up to a character goes through what does not hold it. -/
theorem takeWhile_bne_append {c : Char} (hname : c ∉ name) (rest : List Char) :
    (name ++ rest).takeWhile (· != c) = name ++ rest.takeWhile (· != c) := by
  refine List.takeWhile_append_of_pos fun d hd => bne_iff_ne.2 ?_
  rintro rfl
  exact hname hd

/-- The first closing brace behind an opening one ends the variable, whatever comes after it. -/
theorem variableAfterBrace?_append (hopening : '\x7b' ∉ name) (hclosing : '\x7d' ∉ name)
    (rest : List Char) : variableAfterBrace? (name ++ '\x7d' :: rest) = some name := by
  have hsegment : (name ++ '\x7d' :: rest).takeWhile (· != '\x7b') =
      name ++ '\x7d' :: rest.takeWhile (· != '\x7b') := by
    rw [takeWhile_bne_append hopening, List.takeWhile_cons_of_pos (by decide)]
  have hname : (name ++ '\x7d' :: rest.takeWhile (· != '\x7b')).takeWhile (· != '\x7d') = name := by
    rw [takeWhile_bne_append hclosing, List.takeWhile_cons_of_neg (by decide), List.append_nil]
  simp [variableAfterBrace?, hsegment, hname]

/-- A part gives its variable. -/
theorem templateVariables_part_append (part : TemplatePart) (rest : List Char) :
    templateVariables (part.text ++ rest) = part.variableName :: templateVariables rest := by
  obtain ⟨literal, name, hliteral, hopening, hclosing⟩ := part
  have hname : '\x7b' ∉ name ++ ['\x7d'] := by simpa using hopening
  calc templateVariables (literal ++ '\x7b' :: (name ++ ['\x7d']) ++ rest)
      = templateVariables ('\x7b' :: (name ++ ['\x7d'] ++ rest)) := by
        rw [List.append_assoc, templateVariables_append hliteral, List.cons_append]
    _ = (variableAfterBrace? (name ++ '\x7d' :: rest)).toList
          ++ templateVariables (name ++ ['\x7d'] ++ rest) := by
        rw [templateVariables, if_pos rfl, List.append_assoc, List.singleton_append]
    _ = name :: templateVariables rest := by
        rw [variableAfterBrace?_append hopening hclosing, templateVariables_append hname]
        rfl

/-- **The variables of a path are found in order.** -/
theorem templateVariables_text (template : PathTemplate) :
    templateVariables template.text = template.variableNames := by
  obtain ⟨parts, ending, hending⟩ := template
  rw [PathTemplate.text, PathTemplate.variableNames]
  induction parts with
  | nil =>
    have hnone := templateVariables_append hending []
    rwa [List.append_nil] at hnone
  | cons part parts ih =>
    rw [List.flatMap_cons, List.append_assoc, templateVariables_part_append, ih, List.map_cons]

end Variables

/-! ## Path parameters -/

section Parameters

variable {document : Document} {site : OperationSite} {name : String}

/-- A parameter of the path or of the operation itself, or the one that its chain of references
reaches, is sent in the path and has the name. -/
def NamesPathParameter (document : Document) (site : OperationSite) (name : String) : Prop :=
  ∃ declared ∈ site.item.parameters ++ site.operation.parameters, ∃ parameter,
    ChainResult "parameters" document.parts.parameters declared (.ok parameter)
      ∧ parameter.location = .path ∧ parameter.name = name

theorem mem_pathParameterNames_iff :
    name ∈ site.pathParameterNames document ↔ NamesPathParameter document site name := by
  have hfollow (declared : Referable Parameter) (parameter : Parameter) :
      document.parameter declared = .ok parameter ↔
        ChainResult "parameters" document.parts.parameters declared (.ok parameter) :=
    follow_eq_iff (by decide)
  simp only [OperationSite.pathParameterNames, OperationSite.parameters, PathItem.parametersOf,
    List.mem_map, List.mem_filter, mem_successes_iff, beq_iff_eq, hfollow, NamesPathParameter]
  constructor
  · rintro ⟨parameter, ⟨⟨declared, hmem, hchain⟩, hplace⟩, hname⟩
    exact ⟨declared, hmem, parameter, hchain, hplace, hname⟩
  · rintro ⟨declared, hmem, parameter, hchain, hplace, hname⟩
    exact ⟨parameter, ⟨⟨declared, hmem, hchain⟩, hplace⟩, hname⟩

instance : Decidable (NamesPathParameter document site name) :=
  decidable_of_iff _ mem_pathParameterNames_iff

/-- The variables that are reported are those without a parameter. -/
theorem unmatchedVariables_eq (document : Document) (site : OperationSite) :
    site.unmatchedVariables document =
      ((templateVariables site.path.toList).map String.ofList).filter
        (¬NamesPathParameter document site ·) := by
  refine List.filter_congr fun name _ => ?_
  simp [← mem_pathParameterNames_iff]

end Parameters

/-! ## Issues -/

/-- Whether an issue is a variable without a parameter, at a place. -/
def Issue.isUnmatchedAt (location : Location) : Issue → Bool
  | ⟨place, .missingPathParameter _⟩ => place == location
  | _ => false

section Issues

variable {document : Document}

/-- Apart from ids that repeat, operations have the issues that each has by itself. -/
theorem filter_siteIssues {p : Issue → Bool}
    (hp : ∀ location id first, p ⟨location, .duplicateOperationId id first⟩ = false)
    (seen : List (String × Location)) (sites : List OperationSite) :
    (siteIssues document seen sites).filter p =
      sites.flatMap fun site => (site.issues document).filter p := by
  induction sites generalizing seen with
  | nil => rfl
  | cons site rest ih =>
    rw [siteIssues, List.filter_append, List.flatMap_cons]
    congr 1
    split
    · exact ih seen
    · split
      · rw [List.filter_cons_of_neg (by simp [hp]), ih]
      · exact ih _

/-- An operation has its own variables reported, at its own place. -/
theorem filter_unmatched_site_issues (site other : OperationSite) :
    (other.issues document).filter (Issue.isUnmatchedAt site.location) =
      if other.location = site.location then
        (other.unmatchedVariables document).map (⟨other.location, .missingPathParameter ·⟩)
      else [] := by
  by_cases hplace : other.location = site.location <;>
    simp [OperationSite.issues, List.filter_flatMap, List.filter_map, Function.comp_def,
      Issue.isUnmatchedAt, hplace]

/-- Nothing at a component schema is at the place of an operation. -/
theorem filter_unmatched_eq_nil (site : OperationSite) {issues : List Issue}
    (h : ∀ issue ∈ issues, ∃ name, issue.location = .schema name) :
    issues.filter (Issue.isUnmatchedAt site.location) = [] := by
  refine List.filter_eq_nil_iff.2 fun issue hmem => ?_
  obtain ⟨name, hplace⟩ := h issue hmem
  obtain ⟨place, problem⟩ := issue
  obtain rfl : place = .schema name := hplace
  cases problem <;> exact Bool.false_ne_true

/-- Of the operations of a document only one is at the place of a given one. -/
theorem location_ne_of_mem {site : OperationSite} {before after : List OperationSite}
    (hsites : document.sites = before ++ site :: after) :
    ∀ other ∈ before ++ after, other.location ≠ site.location := by
  have hnodup : (document.sites.map OperationSite.endpoint).Nodup :=
    (document.sortedSites_perm.map OperationSite.endpoint).nodup_iff.1
      (document.pairwise_endpoint_sortedSites.imp EndpointBefore.ne)
  have hmiddle : (site.endpoint :: (before ++ after).map OperationSite.endpoint).Nodup := by
    rw [hsites] at hnodup
    exact ((List.perm_middle : (before ++ site :: after).Perm _).map _).nodup_iff.1 hnodup
  intro other hmem heq
  obtain ⟨hmethod, hpath⟩ := Location.operation.inj heq
  refine (List.nodup_cons.1 hmiddle).1 (List.mem_map.2 ⟨other, hmem, ?_⟩)
  rw [OperationSite.endpoint, hmethod, hpath]
  rfl

/-- **What validation reports of the variables of an operation.** -/
theorem Document.filter_unmatched_issues {site : OperationSite} (h : site ∈ document.sites) :
    document.issues.filter (Issue.isUnmatchedAt site.location) =
      (site.unmatchedVariables document).map (⟨site.location, .missingPathParameter ·⟩) := by
  obtain ⟨before, after, hsites⟩ := List.append_of_mem h
  have hothers {others : List OperationSite} (hsub : others ⊆ before ++ after) :
      (others.flatMap fun other =>
        (other.issues document).filter (Issue.isUnmatchedAt site.location)) = [] := by
    refine List.flatMap_eq_nil_iff.2 fun other hmem => ?_
    rw [filter_unmatched_site_issues, if_neg (location_ne_of_mem hsites other (hsub hmem))]
  rw [issues, List.filter_append, List.filter_append,
    filter_unmatched_eq_nil site fun _ hmem => (error_of_mem_schemaIssues hmem).2,
    filter_unmatched_eq_nil site fun _ hmem => (warning_of_mem_unused hmem).2,
    filter_siteIssues (fun _ _ _ => rfl), hsites, List.flatMap_append, List.flatMap_cons,
    hothers (List.subset_append_left _ _), hothers (List.subset_append_right _ _),
    filter_unmatched_site_issues, if_pos rfl]
  simp

end Issues

/-- **The variables of a path are checked exactly**: they are found in order, and of an operation at
the path validation reports, in this order, each place of a variable that no parameter sent in the
path names. -/
theorem templateVariables_and_unmatched_issues (template : PathTemplate) :
    templateVariables template.text = template.variableNames
      ∧ ∀ document : Document, ∀ site ∈ document.sites, site.path.toList = template.text →
        document.issues.filter (Issue.isUnmatchedAt site.location) =
          ((template.variableNames.map String.ofList).filter
            (¬NamesPathParameter document site ·)).map
              fun name => ⟨site.location, .missingPathParameter name⟩ := by
  refine ⟨templateVariables_text template, fun document site hsite hpath => ?_⟩
  rw [document.filter_unmatched_issues hsite, unmatchedVariables_eq, hpath,
    templateVariables_text]

/-- A path with a closing brace too many, an empty variable, and one that comes again. -/
def kennelsTemplate : PathTemplate where
  parts :=
    [⟨"/v\x7d1/".toList, "owner".toList, by decide, by decide, by decide⟩,
      ⟨[], [], by decide, by decide, by decide⟩,
      ⟨"/".toList, "pet".toList, by decide, by decide, by decide⟩,
      ⟨"/".toList, "owner".toList, by decide, by decide, by decide⟩]
  ending := ".json".toList
  opening_notMem_ending := by decide

/-- An operation whose parameter for `owner` is not sent in the path. -/
def kennelsOperation : Operation where
  parameters :=
    [.inline { name := "owner", location := .query }, .reference "#/components/parameters/Gone"]

/-- The operation at its path, for which a chain of references reaches a parameter for `pet`. -/
def kennelsSite : OperationSite where
  path := "/v\x7d1/\x7bowner\x7d\x7b\x7d/\x7bpet\x7d/\x7bowner\x7d.json"
  item := { parameters := [.reference "#/components/parameters/Pet"], get := some kennelsOperation }
  method := .get
  operation := kennelsOperation

/-- A document with this operation and another one. -/
def kennelsDocument : Document where
  openapi := "3.0.3"
  info := { title := "kennels", version := "1" }
  components := some
    { parameters := Dict.ofEntries [("Pet", .reference "#/components/parameters/PetName"),
        ("PetName", .inline { name := "pet", location := .path })] }
  paths := Dict.ofEntries [("/pets", { get := some {} }), (kennelsSite.path, kennelsSite.item)]

theorem templateVariables_and_unmatched_issues_kennels :
    kennelsSite.path.toList = kennelsTemplate.text
      ∧ kennelsDocument.issues.filter (Issue.isUnmatchedAt kennelsSite.location) =
        ["owner", "", "owner"].map fun name =>
          ⟨kennelsSite.location, .missingPathParameter name⟩ := by
  have hsite : kennelsSite ∈ kennelsDocument.sites := kennelsDocument.mem_sites_iff.2 ⟨rfl, rfl⟩
  have hpath : kennelsSite.path.toList = kennelsTemplate.text := by decide +kernel
  refine ⟨hpath, ?_⟩
  rw [(templateVariables_and_unmatched_issues kennelsTemplate).2 kennelsDocument kennelsSite hsite
    hpath]
  decide +kernel

end OpenApi
