import Mathlib.Order.Bounds.Defs
import OpenApi.Proofs.ByteOrder
import OpenApi.Proofs.Sorting
import OpenApi.Proofs.Validity

/-!
# Unused component schemas

Validation warns of the component schemas that no operation uses, directly or through other
component schemas. What an operation uses is said here as a relation, without the lists that
validation collects and without its search: the used names are the least set that holds the names in
the operations and, with a component, the names in its schema. The search ends with every schema
outside of this set.

## Main definitions

* `Mentions`: a path stands in a schema, at any depth.
* `OperationSite.Uses`: a path stands in a part of an operation.
* `Document.UseClosed`, `Document.usedNames`: the sets of names that hold what is used, and the
  least of them.

## Main statements

* `mem_schemaPaths_iff`, `mem_usedPaths_iff`: the collected paths are those that stand there.
* `mem_unreached_of_not_mem`, `namedWithin_unreached`: what the search leaves, and what it does not.
* `Document.warnings_eq_unused`: the warnings are for what is outside of the least set.
-/
namespace OpenApi

/-! ## The paths in a schema -/

/-- A path stands in a reference or schema: the reference is the path, the path stands in a schema
that the schema holds, or the discriminator of the schema leads there inside the document. -/
inductive Mentions : Referable Schema → String → Prop
  | reference {path : String} : Mentions (.reference path) path
  | property {schema : Schema} {entry : String × Referable Schema} {path : String} :
      entry ∈ schema.properties → Mentions entry.2 path → Mentions (.inline schema) path
  | items {schema : Schema} {element : Referable Schema} {path : String} :
      schema.items = some element → Mentions element path → Mentions (.inline schema) path
  | values {schema : Schema} {value : Referable Schema} {path : String} :
      schema.additionalProperties = some (.values value) → Mentions value path →
      Mentions (.inline schema) path
  | branch {schema : Schema} {branch : Referable Schema} {path : String} :
      branch ∈ schema.allOf ++ schema.oneOf ++ schema.anyOf → Mentions branch path →
      Mentions (.inline schema) path
  | target {schema : Schema} {discriminator : Discriminator} {value path : String} :
      schema.discriminator = some discriminator → discriminator.mapping.get? value = some path →
      isLocalPath path = true → Mentions (.inline schema) path

theorem Discriminator.mem_paths_iff {d : Discriminator} {path : String} :
    path ∈ d.paths ↔ (∃ value, d.mapping.get? value = some path) ∧ isLocalPath path = true := by
  rw [Discriminator.paths, List.mem_filter, Dict.mem_values_iff]

-- Structural on the schema, as its paths are collected.
mutual

theorem mentions_of_mem_schemaPaths {path : String} : ∀ schema : Referable Schema,
    path ∈ schemaPaths schema → Mentions schema path
  | .reference _, h => by
    rw [schemaPaths, List.mem_singleton] at h
    subst h
    exact .reference
  | .inline schema, h => mentions_of_mem_paths schema h
termination_by structural schema => schema

theorem mentions_of_mem_paths {path : String} : ∀ schema : Schema,
    path ∈ schema.paths → Mentions (.inline schema) path
  | ⟨keywords, properties, additional, items, allOf, oneOf, anyOf⟩, h => by
    rcases Schema.mem_paths_iff.1 h with ⟨entry, hentry, h⟩ | ⟨element, hitems, h⟩
      | ⟨value, hvalue, h⟩ | ⟨branch, hbranch, h⟩ | ⟨d, hd, h⟩
    · exact .property hentry (mentions_of_mem_properties properties entry hentry h)
    · cases items with
      | none => nomatch hitems
      | some found =>
        obtain rfl : found = element := Option.some.inj hitems
        exact .items rfl (mentions_of_mem_schemaPaths found h)
    · rcases additional with _ | (flag | schema)
      · nomatch hvalue
      · nomatch hvalue
      · obtain rfl : schema = value := AdditionalProperties.values.inj (Option.some.inj hvalue)
        exact .values rfl (mentions_of_mem_schemaPaths schema h)
    · refine .branch hbranch ?_
      simp only [List.mem_append] at hbranch
      rcases hbranch with (hbranch | hbranch) | hbranch
      · exact mentions_of_mem_branches allOf branch hbranch h
      · exact mentions_of_mem_branches oneOf branch hbranch h
      · exact mentions_of_mem_branches anyOf branch hbranch h
    · obtain ⟨⟨value, hvalue⟩, hlocal⟩ := Discriminator.mem_paths_iff.1 h
      exact .target hd hvalue hlocal
termination_by structural schema => schema

theorem mentions_of_mem_branches {path : String} : ∀ branches : List (Referable Schema),
    ∀ branch ∈ branches, path ∈ schemaPaths branch → Mentions branch path
  | [], _, hbranch, _ => nomatch hbranch
  | first :: rest, branch, hbranch, h => by
    rcases List.mem_cons.1 hbranch with heq | hrest
    · rw [heq] at h ⊢
      exact mentions_of_mem_schemaPaths first h
    · exact mentions_of_mem_branches rest branch hrest h
termination_by structural branches => branches

theorem mentions_of_mem_properties {path : String} :
    ∀ properties : List (String × Referable Schema), ∀ entry ∈ properties,
      path ∈ schemaPaths entry.2 → Mentions entry.2 path
  | [], _, hentry, _ => nomatch hentry
  | (name, schema) :: rest, entry, hentry, h => by
    rcases List.mem_cons.1 hentry with heq | hrest
    · rw [heq] at h ⊢
      exact mentions_of_mem_schemaPaths schema h
    · exact mentions_of_mem_properties rest entry hrest h
termination_by structural properties => properties

end

/-- **The paths of a schema are those that stand in it.** -/
theorem mem_schemaPaths_iff {schema : Referable Schema} {path : String} :
    path ∈ schemaPaths schema ↔ Mentions schema path := by
  refine ⟨mentions_of_mem_schemaPaths schema, fun h => ?_⟩
  induction h with
  | reference => exact List.mem_singleton.2 rfl
  | property hentry _ ih => exact Schema.mem_paths_iff.2 (.inl ⟨_, hentry, ih⟩)
  | items hitems _ ih => exact Schema.mem_paths_iff.2 (.inr (.inl ⟨_, hitems, ih⟩))
  | values hvalues _ ih => exact Schema.mem_paths_iff.2 (.inr (.inr (.inl ⟨_, hvalues, ih⟩)))
  | branch hbranch _ ih =>
    exact Schema.mem_paths_iff.2 (.inr (.inr (.inr (.inl ⟨_, hbranch, ih⟩))))
  | target hd hvalue hlocal =>
    have hpath := Discriminator.mem_paths_iff.2 ⟨⟨_, hvalue⟩, hlocal⟩
    exact Schema.mem_paths_iff.2 (.inr (.inr (.inr (.inr ⟨_, hd, hpath⟩))))

theorem mem_optionalPaths_iff {schema : Option (Referable Schema)} {path : String} :
    path ∈ optionalPaths schema ↔ ∃ found, schema = some found ∧ Mentions found path := by
  cases schema with
  | none => simp [optionalPaths]
  | some schema => simp [optionalPaths, mem_schemaPaths_iff]

theorem mem_contentPaths_iff {content : Dict MediaType} {path : String} :
    path ∈ contentPaths content ↔ ∃ contentType media schema,
      content.get? contentType = some media ∧ media.schema = some schema
        ∧ Mentions schema path := by
  simp only [contentPaths, List.mem_flatMap, mem_optionalPaths_iff, Dict.mem_values_iff]
  constructor
  · rintro ⟨media, ⟨contentType, hmedia⟩, schema, hschema, hmentions⟩
    exact ⟨contentType, media, schema, hmedia, hschema, hmentions⟩
  · rintro ⟨contentType, media, schema, hmedia, hschema, hmentions⟩
    exact ⟨media, ⟨contentType, hmedia⟩, schema, hschema, hmentions⟩

/-! ## The paths in an operation -/

/-- A path stands in a schema of an operation: of a parameter, of the request body, of a response,
or of a header of a response. Where one of these is a reference, what it comes to counts, and
nothing does where it leads nowhere. -/
inductive OperationSite.Uses (document : Document) (site : OperationSite) : String → Prop
  | parameter {source : Referable Parameter} {parameter : Parameter} {schema : Referable Schema}
      {path : String} : source ∈ site.item.parameters ++ site.operation.parameters →
      document.parameter source = .ok parameter → parameter.schema = some schema →
      Mentions schema path → Uses document site path
  | requestBody {source : Referable RequestBody} {body : RequestBody} {contentType : String}
      {media : MediaType} {schema : Referable Schema} {path : String} :
      site.operation.requestBody = some source → document.requestBody source = .ok body →
      body.content.get? contentType = some media → media.schema = some schema →
      Mentions schema path → Uses document site path
  | response {code : String} {source : Referable Response} {response : Response}
      {contentType : String} {media : MediaType} {schema : Referable Schema} {path : String} :
      site.operation.responses.get? code = some source → document.response source = .ok response →
      response.content.get? contentType = some media → media.schema = some schema →
      Mentions schema path → Uses document site path
  | header {code : String} {source : Referable Response} {response : Response} {name : String}
      {headerSource : Referable Header} {header : Header} {schema : Referable Schema}
      {path : String} :
      site.operation.responses.get? code = some source → document.response source = .ok response →
      response.headers.get? name = some headerSource → document.header headerSource = .ok header →
      header.schema = some schema → Mentions schema path → Uses document site path

namespace OperationSite

variable {document : Document} {site : OperationSite} {path : String}

theorem mem_responsePaths_iff {source : Referable Response} :
    path ∈ responsePaths document source ↔ ∃ response, document.response source = .ok response
      ∧ (path ∈ contentPaths response.content
        ∨ ∃ name headerSource header, response.headers.get? name = some headerSource
          ∧ document.header headerSource = .ok header ∧ path ∈ optionalPaths header.schema) := by
  unfold responsePaths
  cases document.response source with
  | error e => simp
  | ok response =>
    simp only [List.mem_append, List.mem_flatMap, mem_successes_iff, List.mem_map,
      Dict.mem_values_iff]
    grind

/-- **The paths of an operation are those that stand in it.** -/
theorem mem_usedPaths_iff : path ∈ site.usedPaths document ↔ site.Uses document path := by
  simp only [usedPaths, parameters, requestBody, PathItem.parametersOf, List.mem_append,
    List.mem_flatMap, mem_successes_iff, List.mem_map, Option.mem_toList, Option.map_eq_some_iff,
    Dict.mem_values_iff, mem_responsePaths_iff, mem_optionalPaths_iff, mem_contentPaths_iff]
  constructor
  · rintro ((⟨parameter, ⟨source, hsource, hparameter⟩, schema, hschema, hmentions⟩
      | ⟨body, ⟨source, hsource, hbody⟩, contentType, media, schema, hmedia, hschema, hmentions⟩)
      | ⟨source, ⟨code, hsource⟩, response, hresponse,
        ⟨contentType, media, schema, hmedia, hschema, hmentions⟩
        | ⟨name, headerSource, header, hname, hheader, schema, hschema, hmentions⟩⟩)
    · exact .parameter (List.mem_append.2 hsource) hparameter hschema hmentions
    · exact .requestBody hsource hbody hmedia hschema hmentions
    · exact .response hsource hresponse hmedia hschema hmentions
    · exact .header hsource hresponse hname hheader hschema hmentions
  · intro h
    cases h with
    | parameter hsource hparameter hschema hmentions =>
      exact .inl (.inl ⟨_, ⟨_, List.mem_append.1 hsource, hparameter⟩, _, hschema, hmentions⟩)
    | requestBody hsource hbody hmedia hschema hmentions =>
      exact .inl (.inr ⟨_, ⟨_, hsource, hbody⟩, _, _, _, hmedia, hschema, hmentions⟩)
    | response hsource hresponse hmedia hschema hmentions =>
      exact .inr ⟨_, ⟨_, hsource⟩, _, hresponse, .inl ⟨_, _, _, hmedia, hschema, hmentions⟩⟩
    | header hsource hresponse hname hheader hschema hmentions =>
      exact .inr ⟨_, ⟨_, hsource⟩, _, hresponse,
        .inr ⟨_, _, _, hname, hheader, _, hschema, hmentions⟩⟩

end OperationSite

/-! ## The search -/

section Search

variable {fresh : List (String × Referable Schema)} {pending : List String}

/-- The component schemas that the paths name are all in a set. -/
def NamedWithin (names : Set String) (paths : List String) : Prop :=
  ∀ path ∈ paths, ∀ name, componentName "schemas" path = .ok name → name ∈ names

theorem namedWithin_append {names : Set String} {paths others : List String} :
    NamedWithin names (paths ++ others) ↔ NamedWithin names paths ∧ NamedWithin names others :=
  List.forall_mem_append

theorem unreached_sublist (fresh : List (String × Referable Schema)) (pending : List String) :
    (unreached fresh pending).Sublist fresh := by
  fun_induction unreached fresh pending with
  | case1 fresh => exact List.Sublist.refl fresh
  | case2 fresh path pending e hname ih => exact ih
  | case3 fresh path pending name hname hnone ih => exact ih
  | case4 fresh path pending name hname schema hsome _ ih => exact ih.trans List.filter_sublist

/-- The search passes over the entries outside of a set that holds the pending names and
is closed. -/
theorem mem_unreached_of_not_mem {names : Set String} (hpending : NamedWithin names pending)
    (hclosed : ∀ entry ∈ fresh, entry.1 ∈ names → NamedWithin names (schemaPaths entry.2))
    {entry : String × Referable Schema} (hentry : entry ∈ fresh) (hout : entry.1 ∉ names) :
    entry ∈ unreached fresh pending := by
  fun_induction unreached fresh pending with
  | case1 fresh => exact hentry
  | case2 fresh path pending e hname ih =>
    exact ih (List.forall_mem_cons.1 hpending).2 hclosed hentry
  | case3 fresh path pending name hname hnone ih =>
    exact ih (List.forall_mem_cons.1 hpending).2 hclosed hentry
  | case4 fresh path pending name hname schema hsome _ ih =>
    obtain ⟨hpath, hpending⟩ := List.forall_mem_cons.1 hpending
    -- The search takes the component `name` away, which is in the set, so it is another one.
    have hin : name ∈ names := hpath name hname
    have hne : entry.1 ≠ name := fun heq => hout (heq ▸ hin)
    have hschema : NamedWithin names (schemaPaths schema) :=
      hclosed (name, schema) (mem_of_lookup_eq_some hsome) hin
    refine ih (namedWithin_append.2 ⟨hschema, hpending⟩) ?_ (mem_without.2 ⟨hentry, hne⟩)
    exact fun other hother => hclosed other (mem_without.1 hother).1

/-- What the search leaves is named neither by a pending path nor by an entry that it takes away. -/
theorem namedWithin_unreached (fresh : List (String × Referable Schema)) (pending : List String) :
    NamedWithin {name | name ∉ (unreached fresh pending).map Prod.fst} pending
      ∧ ∀ name schema, fresh.lookup name = some schema →
        name ∉ (unreached fresh pending).map Prod.fst →
        NamedWithin {name | name ∉ (unreached fresh pending).map Prod.fst}
          (schemaPaths schema) := by
  fun_induction unreached fresh pending with
  | case1 fresh =>
    refine ⟨fun _ h => (nomatch h), fun name schema hsome hout => absurd ?_ hout⟩
    exact List.mem_map_of_mem (mem_of_lookup_eq_some hsome)
  | case2 fresh path pending e hname ih =>
    refine ⟨List.forall_mem_cons.2 ⟨fun name hok => ?_, ih.1⟩, ih.2⟩
    rw [hname] at hok
    nomatch hok
  | case3 fresh path pending name hname hnone ih =>
    refine ⟨List.forall_mem_cons.2 ⟨fun other hok hmem => ?_, ih.1⟩, ih.2⟩
    obtain rfl : name = other := Except.ok.inj (hname.symm.trans hok)
    have hfresh : name ∈ fresh.map Prod.fst :=
      ((unreached_sublist fresh pending).map Prod.fst).subset hmem
    exact Dict.lookup_eq_none_iff.1 hnone hfresh
  | case4 fresh path pending name hname schema hsome _ ih =>
    obtain ⟨hpaths, hentries⟩ := ih
    obtain ⟨hschema, hpending⟩ := namedWithin_append.1 hpaths
    refine ⟨List.forall_mem_cons.2 ⟨fun other hok hmem => ?_, hpending⟩,
      fun other found hfound => ?_⟩
    · obtain rfl : name = other := Except.ok.inj (hname.symm.trans hok)
      have hwithout : name ∈ (without name fresh).map Prod.fst :=
        ((unreached_sublist _ _).map Prod.fst).subset hmem
      obtain ⟨entry, hentry, heq⟩ := List.mem_map.1 hwithout
      exact (mem_without.1 hentry).2 heq
    · by_cases heq : other = name
      · subst heq
        obtain rfl : schema = found := Option.some.inj (hsome.symm.trans hfound)
        exact fun _ => hschema
      · exact hentries other found (by rw [lookup_without, if_neg heq, hfound])

end Search

/-! ## The used names -/

/-- A set of names holds what the operations of a document use, and with a component schema what its
schema uses. -/
structure Document.UseClosed (document : Document) (names : Set String) : Prop where
  operations : ∀ site ∈ document.sites, ∀ name,
    site.Uses document (componentPath "schemas" name) → name ∈ names
  schemas : ∀ name ∈ names, ∀ schema, document.schemas.get? name = some schema →
    ∀ next, Mentions schema (componentPath "schemas" next) → next ∈ names

/-- The names that every such set holds. -/
def Document.usedNames (document : Document) : Set String :=
  {name | ∀ names, document.UseClosed names → name ∈ names}

section Used

variable {document : Document} {names : Set String}

theorem namedWithin_iff {paths : List String} : NamedWithin names paths ↔
    ∀ name, componentPath "schemas" name ∈ paths → name ∈ names := by
  have hsection : '/' ∉ "schemas".toList := by decide
  constructor
  · intro h name hpath
    exact h _ hpath name ((componentName_eq_ok_iff hsection).2 rfl)
  · intro h path hpath name hname
    obtain rfl := (componentName_eq_ok_iff hsection).1 hname
    exact h name hpath

namespace Document

theorem useClosed_iff : document.UseClosed names ↔
    NamedWithin names (document.sites.flatMap (·.usedPaths document))
      ∧ ∀ entry ∈ document.schemas.entries, entry.1 ∈ names →
        NamedWithin names (schemaPaths entry.2) := by
  simp only [namedWithin_iff, List.mem_flatMap, OperationSite.mem_usedPaths_iff,
    mem_schemaPaths_iff, Prod.forall, Dict.mem_entries_iff]
  constructor
  · intro h
    exact ⟨fun name ⟨site, hsite, huses⟩ => h.operations site hsite name huses,
      fun name schema hschema hin => h.schemas name hin schema hschema⟩
  · rintro ⟨hoperations, hschemas⟩
    exact ⟨fun site hsite name huses => hoperations name ⟨site, hsite, huses⟩,
      fun name hin schema hschema => hschemas name schema hschema hin⟩

/-- **The used names are the least set that holds what is used.** -/
theorem isLeast_usedNames (document : Document) :
    IsLeast {names | document.UseClosed names} document.usedNames := by
  refine ⟨⟨?_, ?_⟩, fun names hnames name hused => hused names hnames⟩
  · intro site hsite name huses names hnames
    exact hnames.operations site hsite name huses
  · intro name hused schema hschema next hmentions names hnames
    exact hnames.schemas name (hused names hnames) schema hschema next hmentions

/-- The component schemas that the search leaves. -/
def unusedEntries (document : Document) : List (String × Referable Schema) :=
  unreached document.schemas.entries (document.sites.flatMap (·.usedPaths document))

theorem unusedEntries_sublist (document : Document) :
    document.unusedEntries.Sublist document.schemas.entries := unreached_sublist _ _

/-- The names that the search does not leave hold what is used. -/
theorem useClosed_reached (document : Document) :
    document.UseClosed {name | name ∉ document.unusedEntries.map Prod.fst} := by
  obtain ⟨hpending, hentries⟩ := namedWithin_unreached document.schemas.entries
    (document.sites.flatMap (·.usedPaths document))
  refine useClosed_iff.2 ⟨hpending, fun entry hentry hin => ?_⟩
  exact hentries entry.1 entry.2 (Dict.mem_entries_iff.1 hentry) hin

theorem mem_unusedSchemas {name : String} :
    name ∈ document.unusedSchemas ↔ name ∈ document.unusedEntries.map Prod.fst := by
  simp only [unusedSchemas, unusedEntries, List.mem_map, mem_sortOn]

/-- **The search leaves the component schemas that are not used.** -/
theorem mem_unusedSchemas_iff {name : String} : name ∈ document.unusedSchemas ↔
    name ∈ document.schemas.names ∧ name ∉ document.usedNames := by
  rw [mem_unusedSchemas]
  constructor
  · intro h
    have hname : name ∈ document.schemas.names :=
      (document.unusedEntries_sublist.map Prod.fst).subset h
    exact ⟨hname, fun hused => hused _ document.useClosed_reached h⟩
  · rintro ⟨hname, hunused⟩
    obtain ⟨entry, hentry, rfl⟩ := List.mem_map.1 hname
    obtain ⟨hpending, hclosed⟩ := useClosed_iff.1 document.isLeast_usedNames.1
    exact List.mem_map_of_mem (mem_unreached_of_not_mem hpending hclosed hentry hunused)

/-- The unused schemas come in the order of their names, each once. -/
theorem pairwise_unusedSchemas (document : Document) :
    document.unusedSchemas.Pairwise (bytes · < bytes ·) := by
  have hnodup : (document.unusedEntries.map Prod.fst).Nodup :=
    document.schemas.distinct.sublist (document.unusedEntries_sublist.map Prod.fst)
  rw [unusedSchemas, List.pairwise_map]
  exact (pairwise_lt_sortOn hnodup).imp bytes_lt_bytes

end Document

end Used

/-! ## The warnings -/

/-- Only a schema that is not used gives a warning. -/
theorem Document.filter_warning_issues (document : Document) :
    document.issues.filter (·.severity == .warning) =
      document.unusedSchemas.map fun name => ⟨.schema name, .unusedModel name⟩ := by
  rw [issues, List.filter_append, List.filter_append,
    List.filter_eq_nil_iff.2 fun issue hmem => by rw [(error_of_mem_schemaIssues hmem).1]; decide,
    List.filter_eq_nil_iff.2 fun issue hmem => by rw [(error_of_mem_siteIssues hmem).1]; decide,
    List.filter_eq_self.2 fun issue hmem => by rw [(warning_of_mem_unused hmem).1]; decide]
  rfl

/-- **The warnings of a document** are for its component schemas outside of the least set of names
that holds what the operations use and, with a component, what its schema uses; in the order of
their names, each once. -/
theorem Document.warnings_eq_unused (document : Document) :
    IsLeast {names | document.UseClosed names} document.usedNames
      ∧ document.issues.filter (·.severity == .warning) =
        document.unusedSchemas.map (fun name => ⟨.schema name, .unusedModel name⟩)
      ∧ document.unusedSchemas.Pairwise (bytes · < bytes ·)
      ∧ ∀ name, name ∈ document.unusedSchemas ↔
        name ∈ document.schemas.names ∧ name ∉ document.usedNames :=
  ⟨document.isLeast_usedNames, document.filter_warning_issues, document.pairwise_unusedSchemas,
    fun _ => document.mem_unusedSchemas_iff⟩

end OpenApi
