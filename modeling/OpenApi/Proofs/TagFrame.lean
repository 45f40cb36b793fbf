import OpenApi.Proofs.Groups

/-!
# The group of a tag by itself

What the group of a tag holds depends on the operations with that first tag, and on nothing else
that the paths of a document say. Models and security schemes do not depend on the paths at all.

## Main definitions

* `OperationSite.alone`: the site of an operation, without the others at its path.
* `Document.sitesTagged`: the operations with a first tag, each by itself.
* `Resolved.Api.group?`: the group of a tag.

## Main statements

* `Dialect.operation_congr`: an operation is resolved from its site, the components and the security
  requirement of the document.
* `map_alone_sortedSites_eq`: the operations with a tag determine their order.
* `group?_eq_of_sitesTagged`: documents that agree on the operations with a tag agree on its group.
-/
namespace OpenApi

open Resolved (Api Group)

/-! ## Operations by themselves -/

/-- The site of an operation, its path offering nothing but the parameters. -/
def OperationSite.alone (site : OperationSite) : OperationSite :=
  { site with item := { parameters := site.item.parameters } }

/-- The first tag of an operation, `default` when it has none. -/
def OperationSite.tag (site : OperationSite) : String :=
  site.operation.tags.headD Dialect.defaultTag

/-- The operations with a first tag, each by itself. -/
def Document.sitesTagged (document : Document) (tag : String) : List OperationSite :=
  (document.sites.filter (·.tag == tag)).map OperationSite.alone

/-! ## What resolution reads -/

variable {document other : Document} {options : ResolveOptions}

/-- An operation is resolved without the other operations of its path. -/
theorem Dialect.operation_alone (dialect : Dialect) (aliases : Dict String) (site : OperationSite) :
    dialect.operation document aliases site.alone = dialect.operation document aliases site := rfl

/-- An operation is resolved from its site, the components and the security requirement. -/
theorem Dialect.operation_congr (dialect : Dialect) (aliases : Dict String)
    (hparts : document.parts = other.parts) (hsecurity : document.security = other.security) :
    dialect.operation document aliases = dialect.operation other aliases := by
  have hparameter : document.parameter = other.parameter := by
    rw [Document.parameter, Document.parameter, hparts]
  have hbody : document.requestBody = other.requestBody := by
    rw [Document.requestBody, Document.requestBody, hparts]
  have hresponse : document.response = other.response := by
    rw [Document.response, Document.response, hparts]
  have hheader : document.header = other.header := by
    rw [Document.header, Document.header, hparts]
  have hresolved : dialect.response document = dialect.response other := by
    funext code response
    rw [Dialect.response, Dialect.response, headers, headers, hheader]
  funext site
  simp only [Dialect.operation, responses, declaredParameters, consumed, authorizations,
    OperationSite.parameters, OperationSite.requestBody, hparameter, hbody, hresponse, hresolved,
    hsecurity]

theorem Dialect.models_congr (dialect : Dialect) (hparts : document.parts = other.parts) :
    dialect.models document = dialect.models other := by
  have hschemas : document.schemas = other.schemas := by
    rw [Document.schemas, Document.schemas, hparts]
  have hmodel : dialect.model document = dialect.model other := by
    funext name schema
    rw [Dialect.model, Dialect.model, Document.schema, Document.schema, hschemas]
  rw [Dialect.models, Dialect.models, hschemas, hmodel]

/-! ## The order of the operations with a tag -/

theorem EndpointBefore.asymm {a b : String × Method} (h : EndpointBefore a b) :
    ¬EndpointBefore b a := by
  rcases h with hpath | ⟨hpath, hmethod⟩
  · rintro (hback | ⟨hback, _⟩)
    · exact List.lt_asymm hpath hback
    · exact List.lt_irrefl _ (hback ▸ hpath)
  · rintro (hback | ⟨_, hback⟩)
    · exact List.lt_irrefl _ (hpath ▸ hback)
    · exact Nat.lt_asymm hmethod hback

/-- Sites that come in order are determined by which they are. -/
theorem eq_of_mem_iff_of_pairwise {sites others : List OperationSite}
    (hsites : (sites.map (·.endpoint)).Pairwise EndpointBefore)
    (hothers : (others.map (·.endpoint)).Pairwise EndpointBefore)
    (hmem : ∀ site, site ∈ sites ↔ site ∈ others) : sites = others := by
  rw [List.pairwise_map] at hsites hothers
  have hnodup {sites : List OperationSite}
      (h : sites.Pairwise fun a b => EndpointBefore a.endpoint b.endpoint) : sites.Nodup :=
    h.imp fun hab heq => hab.ne (congrArg OperationSite.endpoint heq)
  have hperm : sites.Perm others :=
    (List.perm_ext_iff_of_nodup (hnodup hsites) (hnodup hothers)).2 hmem
  exact hperm.eq_of_pairwise (fun a b _ _ hab hba => absurd hba hab.asymm) hsites hothers

/-- The operations with a tag, by path and method. -/
def Document.sortedTagged (document : Document) (tag : String) : List OperationSite :=
  (document.sortedSites.filter (·.tag == tag)).map OperationSite.alone

theorem pairwise_endpoint_sortedTagged (document : Document) (tag : String) :
    ((document.sortedTagged tag).map (·.endpoint)).Pairwise EndpointBefore := by
  refine document.pairwise_endpoint_sortedSites.sublist ?_
  rw [Document.sortedTagged, List.map_map]
  exact List.filter_sublist.map _

/-- **The operations with a tag determine their order.** -/
theorem sortedTagged_eq {tag : String}
    (h : ∀ site, site ∈ document.sitesTagged tag ↔ site ∈ other.sitesTagged tag) :
    document.sortedTagged tag = other.sortedTagged tag := by
  have hmem (source : Document) (site : OperationSite) :
      site ∈ source.sortedTagged tag ↔ site ∈ source.sitesTagged tag :=
    ((source.sortedSites_perm.filter _).map _).mem_iff
  refine eq_of_mem_iff_of_pairwise (pairwise_endpoint_sortedTagged document tag)
    (pairwise_endpoint_sortedTagged other tag) fun site => ?_
  rw [hmem, hmem, h]

theorem operationsTagged_eq_map (document : Document) (options : ResolveOptions) (tag : String) :
    document.operationsTagged options tag =
      (document.sortedTagged tag).map (options.dialect.operation document options.aliases) := by
  have halone : options.dialect.operation document options.aliases ∘ OperationSite.alone =
      options.dialect.operation document options.aliases :=
    funext (options.dialect.operation_alone options.aliases)
  rw [Document.operationsTagged, Dialect.operations, List.filter_map, Document.sortedTagged,
    List.map_map, halone]
  rfl

/-! ## The group of a tag -/

/-- The group of a tag. -/
def Resolved.Api.group? (api : Api) (tag : String) : Option Group :=
  api.groups.find? (·.tag.original == tag)

theorem find?_distinctSorted (name : String) (names : List String) :
    (distinctSorted names).find? (· == name) = if name ∈ names then some name else none := by
  split
  case isTrue hmem =>
    cases hfind : (distinctSorted names).find? (· == name) with
    | none => simpa using List.find?_eq_none.1 hfind name (mem_distinctSorted.2 hmem)
    | some found =>
      have heq : (found == name) = true := by simpa using List.find?_eq_some_iff_append.1 hfind |>.1
      rw [beq_iff_eq.1 heq]
  case isFalse hmem =>
    refine List.find?_eq_none.2 fun other hother => ?_
    simpa using fun heq : other = name => hmem (heq ▸ mem_distinctSorted.1 hother)

/-- A tag has a group when it has operations. -/
theorem group?_resolved (document : Document) (options : ResolveOptions) (tag : String) :
    (document.resolved options).group? tag =
      if document.operationsTagged options tag = [] then none
      else some
        { tag := NameForms.of tag
          className := options.naming.apiName tag
          operations := distinctIds (document.operationsTagged options tag) } := by
  have hnone : document.operationsTagged options tag = [] ↔
      tag ∉ (options.dialect.operations document options.aliases).map (·.tag) := by
    simp [Document.operationsTagged, List.filter_eq_nil_iff]
  have hfind : (document.resolved options).group? tag =
      ((distinctSorted ((options.dialect.operations document options.aliases).map (·.tag))).find?
        (· == tag)).map fun tag =>
          { tag := NameForms.of tag
            className := options.naming.apiName tag
            operations := distinctIds (document.operationsTagged options tag) } := by
    simp only [Resolved.Api.group?, Document.resolved, Document.rawGroups, groupByTag, List.map_map,
      List.find?_map]
    rfl
  rw [hfind, find?_distinctSorted]
  by_cases htag : tag ∈ (options.dialect.operations document options.aliases).map (·.tag)
  · rw [if_pos htag, if_neg (mt hnone.1 (not_not_intro htag)), Option.map_some]
  · rw [if_neg htag, if_pos (hnone.2 htag), Option.map_none]

/-- **Documents that agree on the operations with a tag agree on its group**, if they have the same
components and security requirement, and their models and security schemes are the same. -/
theorem group?_eq_of_sitesTagged (hparts : document.parts = other.parts)
    (hsecurity : document.security = other.security)
    (hpolicy : options.skipValidation = true ∨ options.validation = .lenient) :
    ∃ api otherApi, document.resolve options = .ok api ∧ other.resolve options = .ok otherApi
      ∧ api.models = otherApi.models ∧ api.securitySchemes = otherApi.securitySchemes
      ∧ ∀ tag, (∀ site, site ∈ document.sitesTagged tag ↔ site ∈ other.sitesTagged tag) →
          api.group? tag = otherApi.group? tag := by
  refine ⟨document.resolved options, other.resolved options, document.resolve_eq_ok hpolicy,
    other.resolve_eq_ok hpolicy, options.dialect.models_congr hparts, ?_, fun tag hsame => ?_⟩
  · rw [Document.resolved, Document.resolved, hparts]
  · have htagged : document.operationsTagged options tag = other.operationsTagged options tag := by
      rw [operationsTagged_eq_map, operationsTagged_eq_map, sortedTagged_eq hsame,
        options.dialect.operation_congr options.aliases hparts hsecurity]
    rw [group?_resolved, group?_resolved, htagged]

/-- Operations of two tags, two of them with one id, and a parameter among the components; what
comes besides the operations with the tag `pets` is of choice. -/
def petsDocument (title : String) (cats : PathItem) : Document where
  openapi := "3.0.3"
  info := { title, version := "1" }
  components := some
    { parameters := Dict.ofEntries [("Page", .inline { name := "page", location := .query })] }
  paths := Dict.ofEntries
    [("/cats", cats),
      ("/pets", { parameters := [.reference "#/components/parameters/Page"]
                  get := some { operationId := some "list", tags := ["pets"] }
                  post := some { operationId := some "list", tags := ["pets"] } })]

theorem group?_eq_of_sitesTagged_petsDocument :
    let document := petsDocument "cats" { get := some { operationId := some "list" } }
    let other := petsDocument "no cats" {}
    document.parts = other.parts ∧ document.security = other.security
      ∧ (∀ site, site ∈ document.sitesTagged "pets" ↔ site ∈ other.sitesTagged "pets")
      ∧ ∃ api otherApi, document.resolve {} = .ok api ∧ other.resolve {} = .ok otherApi
        ∧ api.models = otherApi.models ∧ api.securitySchemes = otherApi.securitySchemes
        ∧ api.group? "pets" = otherApi.group? "pets"
        ∧ (api.group? "pets").map (fun group => group.operations.map (·.names.id)) =
            some ["list", "list1"] := by
  intro document other
  have hsame : ∀ site, site ∈ document.sitesTagged "pets" ↔ site ∈ other.sitesTagged "pets" :=
    fun site => Iff.rfl
  have hparts : document.parts = other.parts := by rfl
  have hsecurity : document.security = other.security := by rfl
  have hpolicy : ({} : ResolveOptions).skipValidation = true
      ∨ ({} : ResolveOptions).validation = .lenient := .inr rfl
  obtain ⟨api, otherApi, hapi, hother, hmodels, hschemes, hgroups⟩ :=
    group?_eq_of_sitesTagged hparts hsecurity hpolicy
  refine ⟨hparts, hsecurity, hsame, api, otherApi, hapi, hother, hmodels, hschemes,
    hgroups "pets" hsame, ?_⟩
  obtain rfl := Document.resolved_of_resolve hapi
  decide +kernel

end OpenApi
