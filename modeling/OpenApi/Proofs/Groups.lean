import OpenApi.Proofs.OperationIds
import OpenApi.Proofs.Sites
import OpenApi.Resolution.Document

/-!
# Operations in their groups

The groups of a resolved document hold its operations. Grouping by tag is a permutation, whatever
the tags are, renaming looks at nothing but ids, and filtering keeps the order of paths and methods.

## Main definitions

* `GroupsOf`: what the groups of a document are.

## Main statements

* `groupByTag_perm`: grouping loses no operation and repeats none.
* `groupsOf_resolve`: the groups of a resolved document are those of the document.
-/
namespace OpenApi

open Resolved (Group OperationNames)

/-! ## Grouping -/

section Keys

universe u v

variable {α : Type u} {κ : Type v} [DecidableEq κ] {key : α → κ}

/-- Selecting the items of each key in turn selects each item once. -/
theorem flatMap_filter_perm {keys : List κ} (hkeys : keys.Nodup) {items : List α}
    (hcovered : ∀ item ∈ items, key item ∈ keys) :
    (keys.flatMap fun k => items.filter fun item => key item == k).Perm items := by
  induction keys generalizing items with
  | nil =>
    rw [List.eq_nil_iff_forall_not_mem.2 fun item hmem => List.not_mem_nil (hcovered item hmem)]
    exact .refl _
  | cons k rest ih =>
    obtain ⟨hk, hrest⟩ := List.nodup_cons.1 hkeys
    let others := items.filter fun item => !(key item == k)
    have hothers : ∀ item ∈ others, key item ∈ rest := by
      intro item hmem
      obtain ⟨hitem, hne⟩ := List.mem_filter.1 hmem
      refine (List.mem_cons.1 (hcovered item hitem)).resolve_left ?_
      simpa using hne
    have htail : (rest.flatMap fun other => items.filter fun item => key item == other) =
        rest.flatMap fun other => others.filter fun item => key item == other := by
      refine List.flatMap_congr fun other hmem => ?_
      rw [List.filter_filter]
      refine List.filter_congr fun item _ => ?_
      have hne : other ≠ k := fun heq => hk (heq ▸ hmem)
      by_cases heq : key item = other <;> simp [heq, hne]
    rw [List.flatMap_cons, htail]
    exact ((ih hrest hothers).append_left _).trans (List.filter_append_perm _ items)

end Keys

variable {naming : Naming} {operations : List Resolved.Operation} {group : Group}

theorem nodup_distinctSorted (names : List String) : (distinctSorted names).Nodup := by
  refine (pairwise_distinctSorted names).imp fun {a b} hlt heq => ?_
  exact String.lt_irrefl b (heq ▸ hlt)

/-- **Grouping loses no operation and repeats none.** -/
theorem groupByTag_perm (naming : Naming) (operations : List Resolved.Operation) :
    ((groupByTag naming operations).flatMap (·.operations)).Perm operations := by
  rw [groupByTag, List.flatMap_map]
  refine flatMap_filter_perm (nodup_distinctSorted _) fun operation hmem => ?_
  exact mem_distinctSorted.2 (List.mem_map_of_mem hmem)

theorem mem_groupByTag_iff : group ∈ groupByTag naming operations ↔
    ∃ tag ∈ operations.map (·.tag), group =
      { tag := NameForms.of tag
        className := naming.apiName tag
        operations := operations.filter (·.tag == tag) } := by
  rw [groupByTag, List.mem_map]
  simp only [mem_distinctSorted, eq_comm]

theorem pairwise_tag_groupByTag (naming : Naming) (operations : List Resolved.Operation) :
    (groupByTag naming operations).Pairwise
      fun first second => bytes first.tag.original < bytes second.tag.original := by
  rw [groupByTag, List.pairwise_map]
  exact (pairwise_distinctSorted _).imp bytes_lt_bytes

/-! ## The groups of a document -/

/-- The path and method of a resolved operation. -/
def Resolved.Operation.endpoint (operation : Resolved.Operation) : String × Method :=
  (operation.path, operation.method)

/-- The operations of one tag, before their ids are made distinct. -/
def Document.operationsTagged (document : Document) (options : ResolveOptions) (tag : String) :
    List Resolved.Operation :=
  (options.dialect.operations document options.aliases).filter (·.tag == tag)

/-- The groups hold the operations that a document declares, each under its first tag. -/
structure GroupsOf (document : Document) (options : ResolveOptions) (groups : List Group) :
    Prop where
  /-- Every declared path and method has one operation in all groups, every other has none. -/
  count_endpoint : ∀ path method,
    ((groups.flatMap (·.operations)).map (·.endpoint)).count (path, method) =
      if (document.operationAt? path method).isSome then 1 else 0
  /-- The tags increase strictly, by their bytes. -/
  pairwise_tag : groups.Pairwise fun first second =>
    bytes first.tag.original < bytes second.tag.original
  nonempty : ∀ group ∈ groups, group.operations ≠ []
  /-- An operation is that of its site, perhaps under another id, and is in the group of the first
  tag that the document gives it. -/
  tag_eq : ∀ group ∈ groups, ∀ operation ∈ group.operations, ∃ site ∈ document.sites,
    operation = (options.dialect.operation document options.aliases site).rename operation.names.id
      ∧ group.tag = NameForms.of (site.operation.tags.headD "default")
  /-- The operations of a group come by path and then by method. -/
  pairwise_endpoint : ∀ group ∈ groups,
    (group.operations.map (·.endpoint)).Pairwise EndpointBefore
  nodup_ids : ∀ group ∈ groups, (group.operations.map (·.names.id)).Nodup
  /-- The names of an operation are the forms of the id that it has in the end. -/
  names_eq : ∀ group ∈ groups, ∀ operation ∈ group.operations,
    operation.names = OperationNames.of operation.names.id

variable {document : Document} {options : ResolveOptions}

theorem endpoint_operations (document : Document) (dialect : Dialect) (aliases : Dict String) :
    (dialect.operations document aliases).map (·.endpoint) =
      document.sortedSites.map OperationSite.endpoint := by
  rw [Dialect.operations, List.map_map]
  rfl

/-- The groups hold the operations of the sorted sites, in some order. -/
theorem endpoint_groups_perm (document : Document) (options : ResolveOptions) :
    (((document.resolved options).groups.flatMap (·.operations)).map (·.endpoint)).Perm
      (document.sortedSites.map OperationSite.endpoint) := by
  have hsettled : ((document.resolved options).groups.flatMap (·.operations)).map (·.endpoint) =
      ((document.rawGroups options).flatMap (·.operations)).map (·.endpoint) := by
    rw [Document.resolved, List.flatMap_map, List.map_flatMap, List.map_flatMap]
    exact List.flatMap_congr fun group _ => map_distinctIds _ (fun _ _ => rfl) group.operations
  rw [hsettled, ← endpoint_operations document options.dialect options.aliases]
  exact (groupByTag_perm _ _).map _

/-- A group of a resolved document holds the operations of a tag, renamed. -/
theorem exists_tag_of_mem_groups (h : group ∈ (document.resolved options).groups) :
    ∃ tag ∈ (options.dialect.operations document options.aliases).map (·.tag),
      group.tag = NameForms.of tag
        ∧ group.operations = distinctIds (document.operationsTagged options tag) := by
  obtain ⟨raw, hraw, rfl⟩ := List.mem_map.1 h
  obtain ⟨tag, htag, rfl⟩ := mem_groupByTag_iff.1 hraw
  exact ⟨tag, htag, rfl, rfl⟩

theorem pairwise_endpoint_operationsTagged (tag : String) :
    ((document.operationsTagged options tag).map (·.endpoint)).Pairwise EndpointBefore := by
  refine (document.pairwise_endpoint_sortedSites).sublist ?_
  rw [← endpoint_operations document options.dialect options.aliases]
  exact List.filter_sublist.map _

/-- The operations of a tag are those of the sites with that first tag. -/
theorem mem_operationsTagged_iff {tag : String} {operation : Resolved.Operation} :
    operation ∈ document.operationsTagged options tag ↔
      ∃ site ∈ document.sites, options.dialect.operation document options.aliases site = operation
        ∧ site.operation.tags.headD "default" = tag := by
  rw [Document.operationsTagged, List.mem_filter, Dialect.operations, List.mem_map]
  simp only [document.sortedSites_perm.mem_iff, beq_iff_eq]
  constructor
  · rintro ⟨⟨site, hsite, rfl⟩, htag⟩
    exact ⟨site, hsite, rfl, htag⟩
  · rintro ⟨site, hsite, rfl, htag⟩
    exact ⟨⟨site, hsite, rfl⟩, htag⟩

theorem names_eq_of_mem_operationsTagged (tag : String) :
    ∀ operation ∈ document.operationsTagged options tag,
      operation.names = OperationNames.of operation.names.id := by
  intro operation hmem
  obtain ⟨site, _, rfl, _⟩ := mem_operationsTagged_iff.1 hmem
  rfl

/-- An operation of a group is that of a site with the group's tag, renamed. -/
theorem exists_site_of_mem_groups {operation : Resolved.Operation}
    (hgroup : group ∈ (document.resolved options).groups) (hmem : operation ∈ group.operations) :
    ∃ site ∈ document.sites,
      operation =
        (options.dialect.operation document options.aliases site).rename operation.names.id
        ∧ group.tag = NameForms.of (site.operation.tags.headD "default") := by
  obtain ⟨tag, _, htag, heq⟩ := exists_tag_of_mem_groups hgroup
  obtain ⟨_, before, hbefore, hrename⟩ := exists_rename_of_mem_distinctIds
    (names_eq_of_mem_operationsTagged tag) (heq ▸ hmem)
  obtain ⟨site, hsite, rfl, rfl⟩ := mem_operationsTagged_iff.1 hbefore
  exact ⟨site, hsite, hrename, htag⟩

/-- An operation of a resolved document is that of a site, under the names of some id. -/
theorem exists_site_of_mem_operations {operation : Resolved.Operation}
    (h : operation ∈ (document.resolved options).operations) :
    ∃ site id, operation =
      (options.dialect.operation document options.aliases site).rename id := by
  obtain ⟨group, hgroup, hmem⟩ := List.mem_flatMap.1 h
  obtain ⟨site, -, heq, -⟩ := exists_site_of_mem_groups hgroup hmem
  exact ⟨site, _, heq⟩

/-- **The groups of a resolved document hold its operations**, none lost, repeated or misfiled. -/
theorem groupsOf_resolve {api : Resolved.Api} (h : document.resolve options = .ok api) :
    GroupsOf document options api.groups := by
  obtain rfl := Document.resolved_of_resolve h
  constructor
  case count_endpoint =>
    intro path method
    rw [(endpoint_groups_perm document options).count_eq]
    exact document.count_endpoint_sortedSites path method
  case pairwise_tag =>
    exact List.pairwise_map.2 (pairwise_tag_groupByTag _ _)
  case nonempty =>
    intro group hgroup hnil
    obtain ⟨tag, htag, _, heq⟩ := exists_tag_of_mem_groups hgroup
    obtain ⟨operation, hmem, rfl⟩ := List.mem_map.1 htag
    have htagged : operation ∈ document.operationsTagged options operation.tag :=
      List.mem_filter.2 ⟨hmem, beq_self_eq_true _⟩
    have hkept := map_distinctIds (·.tag) (fun _ _ => rfl)
      (document.operationsTagged options operation.tag)
    rw [← heq, hnil, List.map_nil] at hkept
    exact List.not_mem_nil (hkept ▸ List.mem_map_of_mem htagged)
  case tag_eq =>
    exact fun group hgroup operation hmem => exists_site_of_mem_groups hgroup hmem
  case pairwise_endpoint =>
    intro group hgroup
    obtain ⟨tag, _, _, heq⟩ := exists_tag_of_mem_groups hgroup
    rw [heq, map_distinctIds _ fun _ _ => rfl]
    exact pairwise_endpoint_operationsTagged tag
  case nodup_ids =>
    intro group hgroup
    obtain ⟨tag, _, _, heq⟩ := exists_tag_of_mem_groups hgroup
    exact heq ▸ nodup_ids_distinctIds _
  case names_eq =>
    intro group hgroup operation hmem
    obtain ⟨tag, _, _, heq⟩ := exists_tag_of_mem_groups hgroup
    exact (exists_rename_of_mem_distinctIds (names_eq_of_mem_operationsTagged tag)
      (heq ▸ hmem)).1

/-- Two operations of one tag with one id, out of order, and one without a tag or an id. -/
def clashingDocument : Document where
  openapi := "3.0.3"
  info := { title := "pets", version := "1" }
  paths := Dict.ofEntries
    [("/pets", { post := some { operationId := some "list", tags := ["pets"] }
                 delete := some {} }),
      ("/cats", { get := some { operationId := some "list", tags := ["pets", "cats"] } })]

theorem groupsOf_resolve_clashingDocument :
    clashingDocument.resolve {} = .ok (clashingDocument.resolved {})
      ∧ GroupsOf clashingDocument {} (clashingDocument.resolved {}).groups
      ∧ (clashingDocument.resolved {}).groups.map
          (fun group => (group.tag.original, group.operations.map (·.names.id))) =
        [("default", ["deletePets"]), ("pets", ["list", "list1"])] :=
  ⟨rfl, groupsOf_resolve rfl, by decide +kernel⟩

end OpenApi
