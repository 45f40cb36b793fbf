import OpenApi.Proofs.ByteOrder
import OpenApi.Proofs.Sorting
import OpenApi.Resolution.Operation

/-!
# The operations of a document

A document declares an operation by a path and a method. Its sites are the declared operations, each
once; sorted, they come by path and for one path in the order of the methods.

## Main definitions

* `Document.operationAt?`: the operation that a document declares for a method at a path.
* `OperationSite.endpoint`: the path and method of a site.
* `EndpointBefore`: the order of paths and methods.

## Main statements

* `mem_sites_iff`: the sites are the declared operations.
* `count_endpoint_sortedSites`: each declared path and method comes once.
* `pairwise_endpoint_sortedSites`: the sorted sites are in order.
-/
namespace OpenApi

/-! ## Paths and methods -/

/-- The operation that a document declares for a method at a path. -/
def Document.operationAt? (document : Document) (path : String) (method : Method) :
    Option Operation :=
  (document.paths.get? path).bind (·.operation? method)

/-- The position of a method among all of them. -/
def Method.rank (method : Method) : Nat := Method.all.idxOf method

/-- Paths come in the order of their bytes, and for one path the methods in their own order. -/
def EndpointBefore (a b : String × Method) : Prop :=
  bytes a.1 < bytes b.1 ∨ a.1 = b.1 ∧ a.2.rank < b.2.rank

theorem EndpointBefore.ne {a b : String × Method} (h : EndpointBefore a b) : a ≠ b := by
  rintro rfl
  rcases h with hpath | ⟨_, hmethod⟩
  · exact List.lt_irrefl _ hpath
  · exact Nat.lt_irrefl _ hmethod

/-- The path and method of a site. -/
def OperationSite.endpoint (site : OperationSite) : String × Method := (site.path, site.method)

/-! ## The operations of a path -/

namespace PathItem

variable {item : PathItem}

theorem mem_operations_iff {method : Method} {operation : Operation} :
    (method, operation) ∈ item.operations ↔ item.operation? method = some operation := by
  simp only [operations, List.mem_filterMap, Option.map_eq_some_iff, Prod.mk.injEq]
  constructor
  · rintro ⟨other, _, found, hfound, rfl, rfl⟩
    exact hfound
  · intro h
    exact ⟨method, by cases method <;> decide, operation, h, rfl, rfl⟩

theorem pairwise_operations (item : PathItem) :
    item.operations.Pairwise (·.1.rank < ·.1.rank) := by
  have hall : Method.all.Pairwise (·.rank < ·.rank) := by decide
  refine List.pairwise_filterMap.2 (hall.imp fun {a b} hab => ?_)
  intro x hx y hy
  obtain ⟨_, _, rfl⟩ := Option.map_eq_some_iff.1 hx
  obtain ⟨_, _, rfl⟩ := Option.map_eq_some_iff.1 hy
  exact hab

end PathItem

namespace OperationSite

variable {path : String} {item : PathItem} {site : OperationSite}

theorem mem_ofItem_iff : site ∈ ofItem path item ↔
    site.path = path ∧ site.item = item ∧ item.operation? site.method = some site.operation := by
  rw [ofItem, List.mem_map]
  constructor
  · rintro ⟨⟨method, operation⟩, hmem, rfl⟩
    exact ⟨rfl, rfl, PathItem.mem_operations_iff.1 hmem⟩
  · rintro ⟨rfl, rfl, hop⟩
    exact ⟨(site.method, site.operation), PathItem.mem_operations_iff.2 hop, rfl⟩

theorem pairwise_endpoint_ofItem (path : String) (item : PathItem) :
    ((ofItem path item).map endpoint).Pairwise EndpointBefore := by
  rw [ofItem, List.map_map, List.pairwise_map]
  exact (PathItem.pairwise_operations item).imp fun hab => Or.inr ⟨rfl, hab⟩

end OperationSite

/-! ## The operations of a document -/

namespace Document

variable (document : Document)

theorem sortedSites_perm : document.sortedSites.Perm document.sites :=
  document.paths.sorted_perm.flatMap_right _

theorem mem_sites_iff {site : OperationSite} : site ∈ document.sites ↔
    document.paths.get? site.path = some site.item
      ∧ site.item.operation? site.method = some site.operation := by
  simp only [sites, List.mem_flatMap, OperationSite.mem_ofItem_iff]
  constructor
  · rintro ⟨⟨path, item⟩, hmem, rfl, rfl, hop⟩
    exact ⟨Dict.mem_entries_iff.1 hmem, hop⟩
  · rintro ⟨hitem, hop⟩
    exact ⟨(site.path, site.item), Dict.mem_entries_iff.2 hitem, rfl, rfl, hop⟩

theorem operationAt?_of_mem {site : OperationSite} (h : site ∈ document.sites) :
    document.operationAt? site.path site.method = some site.operation := by
  obtain ⟨hitem, hop⟩ := document.mem_sites_iff.1 h
  rw [operationAt?, hitem, Option.bind_some, hop]

theorem mem_endpoint_sites_iff {path : String} {method : Method} :
    (path, method) ∈ document.sites.map OperationSite.endpoint ↔
      (document.operationAt? path method).isSome := by
  constructor
  · intro h
    obtain ⟨site, hsite, heq⟩ := List.mem_map.1 h
    obtain ⟨rfl, rfl⟩ := Prod.mk.inj heq
    rw [document.operationAt?_of_mem hsite]
    rfl
  · intro h
    obtain ⟨operation, hfound⟩ := Option.isSome_iff_exists.1 h
    obtain ⟨item, hitem, hop⟩ := Option.bind_eq_some_iff.1 hfound
    have hmem : ⟨path, item, method, operation⟩ ∈ document.sites :=
      document.mem_sites_iff.2 ⟨hitem, hop⟩
    exact List.mem_map_of_mem hmem

/-- **The sorted sites are in order.** -/
theorem pairwise_endpoint_sortedSites :
    (document.sortedSites.map OperationSite.endpoint).Pairwise EndpointBefore := by
  rw [sortedSites, List.map_flatMap, List.pairwise_flatMap]
  refine ⟨fun entry _ => OperationSite.pairwise_endpoint_ofItem entry.1 entry.2, ?_⟩
  refine document.paths.pairwise_sorted.imp fun {first second} hlt => ?_
  intro a ha b hb
  obtain ⟨site, hsite, rfl⟩ := List.mem_map.1 ha
  obtain ⟨other, hother, rfl⟩ := List.mem_map.1 hb
  left
  rw [OperationSite.endpoint, OperationSite.endpoint, (OperationSite.mem_ofItem_iff.1 hsite).1,
    (OperationSite.mem_ofItem_iff.1 hother).1]
  exact bytes_lt_bytes hlt

/-- **Each declared path and method comes once**, and no other does. -/
theorem count_endpoint_sortedSites (path : String) (method : Method) :
    (document.sortedSites.map OperationSite.endpoint).count (path, method) =
      if (document.operationAt? path method).isSome then 1 else 0 := by
  have hnodup : (document.sortedSites.map OperationSite.endpoint).Nodup :=
    document.pairwise_endpoint_sortedSites.imp EndpointBefore.ne
  rw [hnodup.count]
  simp only [(document.sortedSites_perm.map OperationSite.endpoint).mem_iff,
    mem_endpoint_sites_iff]

end Document

end OpenApi
