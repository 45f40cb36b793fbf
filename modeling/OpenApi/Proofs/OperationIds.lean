import Mathlib.Data.List.Nodup
import OpenApi.Resolution.OperationIds
import Std.Data.String.ToNat

/-!
# Operation ids in a group

What renaming does to the operations of a group. A new id is the least numbered one that is not
taken, and there always is one: numbered ids differ, so more of them are tried than are taken. A run
over the operations keeps everything but the names, and leaves no id twice.

## Main statements

* `freshId_eq`: the number of a new id is the least one that is free.
* `map_distinctIds`: what does not look at the names stays.
* `nodup_ids_distinctIds`: no two operations have one id.
-/
namespace OpenApi

open Resolved (OperationNames)

/-! ## New ids -/

theorem numberedId_injective (id : String) : Function.Injective (numberedId id) := by
  intro m n h
  have hdigits : (toString m).toList = (toString n).toList := by
    have := congrArg String.toList h
    simpa [numberedId] using this
  exact Nat.repr_injective (String.toList_injective hdigits)

/-- Of as many numbers in a row as there are taken ids, and one more, one is free. -/
theorem exists_numberedId_not_mem (taken : List String) (id : String) (count : Nat) :
    ∃ k ∈ List.range (taken.length + 1), numberedId id (count + (k + 1)) ∉ taken := by
  by_contra hall
  push Not at hall
  let candidates := (List.range (taken.length + 1)).map fun k => numberedId id (count + (k + 1))
  have hnodup : candidates.Nodup := by
    refine List.nodup_range.map fun j k h => ?_
    have := numberedId_injective id h
    omega
  have hsub : candidates ⊆ taken := by
    intro candidate hmem
    obtain ⟨k, hk, rfl⟩ := List.mem_map.1 hmem
    exact hall k hk
  have hlen := hnodup.length_le_of_subset hsub
  rw [List.length_map, List.length_range] at hlen
  omega

/-- The least number above `count` that makes an id one that is not taken. -/
def numberAbove (taken : List String) (id : String) (count : Nat) : Nat :=
  let free := (List.range (taken.length + 1)).find? fun k =>
    !taken.contains (numberedId id (count + (k + 1)))
  count + (free.getD 0 + 1)

theorem numberAbove_spec (taken : List String) (id : String) (count : Nat) :
    count < numberAbove taken id count ∧ numberedId id (numberAbove taken id count) ∉ taken
      ∧ ∀ j, count < j → j < numberAbove taken id count → numberedId id j ∈ taken := by
  unfold numberAbove
  cases hfind : (List.range (taken.length + 1)).find?
      fun k => !taken.contains (numberedId id (count + (k + 1))) with
  | none =>
    obtain ⟨k, hk, hfree⟩ := exists_numberedId_not_mem taken id count
    have hnone := List.find?_eq_none.1 hfind k hk
    simp [hfree] at hnone
  | some k =>
    obtain ⟨hfree, i, hi, heq, hbefore⟩ := List.find?_eq_some_iff_getElem.1 hfind
    simp only [List.getElem_range] at heq hbefore
    subst heq
    simp only [Option.getD_some]
    refine ⟨by omega, by simpa using hfree, fun j hj hlt => ?_⟩
    have htaken := hbefore (j - count - 1) (by omega)
    simpa [show count + (j - count - 1 + 1) = j by omega] using htaken

theorem freshId_eq_numberAbove (taken : List String) (id : String) :
    freshId taken id = numberedId id (numberAbove taken id 0) := by
  simp only [freshId, numberAbove, Nat.zero_add]

/-- **A new id has the least positive number that is free.** -/
theorem freshId_eq (taken : List String) (id : String) :
    ∃ k, 1 ≤ k ∧ freshId taken id = numberedId id k ∧ numberedId id k ∉ taken
      ∧ ∀ j, 1 ≤ j → j < k → numberedId id j ∈ taken := by
  obtain ⟨hpos, hfree, hbefore⟩ := numberAbove_spec taken id 0
  exact ⟨_, hpos, freshId_eq_numberAbove taken id, hfree, hbefore⟩

theorem freshId_not_mem (taken : List String) (id : String) : freshId taken id ∉ taken := by
  obtain ⟨k, _, heq, hfree, _⟩ := freshId_eq taken id
  exact heq ▸ hfree

/-! ## A run over the operations -/

@[simp] theorem names_rename (operation : Resolved.Operation) (id : String) :
    (operation.rename id).names = OperationNames.of id := rfl

@[simp] theorem id_of (id : String) : (OperationNames.of id).id = id := rfl

variable {taken kept : List String} {operations : List Resolved.Operation}

/-- A run changes the names of operations and nothing else. -/
theorem map_renameRepeated {β : Type} (f : Resolved.Operation → β)
    (hf : ∀ operation id, f (operation.rename id) = f operation) :
    (renameRepeated taken kept operations).map f = operations.map f := by
  induction operations generalizing taken kept with
  | nil => rfl
  | cons operation rest ih =>
    simp only [renameRepeated]
    split
    · rw [List.map_cons, List.map_cons, hf, ih]
    · rw [List.map_cons, List.map_cons, ih]

/-- The names of an operation after a run are the forms of its id, if they were so before. -/
theorem names_eq_of_mem_renameRepeated
    (h : ∀ operation ∈ operations, operation.names = OperationNames.of operation.names.id) :
    ∀ operation ∈ renameRepeated taken kept operations,
      operation.names = OperationNames.of operation.names.id := by
  induction operations generalizing taken kept with
  | nil => exact fun _ hmem => absurd hmem List.not_mem_nil
  | cons operation rest ih =>
    have hrest := fun other hmem => h other (List.mem_cons_of_mem operation hmem)
    intro renamed hmem
    simp only [renameRepeated] at hmem
    split at hmem
    · rcases List.mem_cons.1 hmem with rfl | hmem
      · rfl
      · exact ih hrest renamed hmem
    · rcases List.mem_cons.1 hmem with rfl | hmem
      · exact h renamed List.mem_cons_self
      · exact ih hrest renamed hmem

/-- An operation with a new id in front of operations that avoid that id. -/
theorem nodup_ids_cons {first : Resolved.Operation} (hfresh : first.names.id ∉ kept)
    (havoid : ∀ other ∈ operations, other.names.id ∉ first.names.id :: kept)
    (hnodup : (operations.map (·.names.id)).Nodup) :
    (∀ other ∈ first :: operations, other.names.id ∉ kept)
      ∧ ((first :: operations).map (·.names.id)).Nodup := by
  refine ⟨fun other hmem => ?_, List.nodup_cons.2 ⟨fun hmem => ?_, hnodup⟩⟩
  · rcases List.mem_cons.1 hmem with rfl | hmem
    · exact hfresh
    · exact fun hk => havoid other hmem (List.mem_cons_of_mem _ hk)
  · obtain ⟨other, hother, heq⟩ := List.mem_map.1 hmem
    refine havoid other hother ?_
    rw [heq]
    exact List.mem_cons_self

/-- The invariant of a run: the ids kept so far and those still to come are all taken. Then the ids
that the run leaves differ from those kept and from each other. -/
theorem nodup_ids_renameRepeated (hkept : kept ⊆ taken)
    (htaken : operations.map (·.names.id) ⊆ taken) :
    (∀ operation ∈ renameRepeated taken kept operations, operation.names.id ∉ kept)
      ∧ ((renameRepeated taken kept operations).map (·.names.id)).Nodup := by
  induction operations generalizing taken kept with
  | nil => exact ⟨fun _ hmem => absurd hmem List.not_mem_nil, List.nodup_nil⟩
  | cons operation rest ih =>
    obtain ⟨hid, hrest⟩ := List.cons_subset.1 htaken
    simp only [renameRepeated]
    split
    · have hnew := freshId_not_mem taken operation.names.id
      have hrest' := List.Subset.trans hrest
        (List.subset_cons_self (freshId taken operation.names.id) taken)
      obtain ⟨havoid, hnodup⟩ := ih (List.cons_subset_cons _ hkept) hrest'
      exact nodup_ids_cons (fun hk => hnew (hkept hk)) havoid hnodup
    · rename_i hnot
      obtain ⟨havoid, hnodup⟩ := ih (List.cons_subset.2 ⟨hid, hkept⟩) hrest
      exact nodup_ids_cons (by simpa using hnot) havoid hnodup

/-! ## The operations of a group -/

/-- **Renaming changes names and nothing else**: not the operations, nor their order. -/
theorem map_distinctIds {β : Type} (f : Resolved.Operation → β)
    (hf : ∀ operation id, f (operation.rename id) = f operation)
    (operations : List Resolved.Operation) : (distinctIds operations).map f = operations.map f :=
  map_renameRepeated f hf

/-- An operation after renaming is one from before it under the names of another id. -/
theorem exists_rename_of_mem_distinctIds {operation : Resolved.Operation}
    (h : ∀ operation ∈ operations, operation.names = OperationNames.of operation.names.id)
    (hmem : operation ∈ distinctIds operations) :
    operation.names = OperationNames.of operation.names.id
      ∧ ∃ before ∈ operations, operation = before.rename operation.names.id := by
  have hnames := names_eq_of_mem_renameRepeated h operation hmem
  have hblank := List.mem_map_of_mem (f := fun o => o.rename "") hmem
  rw [map_distinctIds _ fun _ _ => rfl] at hblank
  obtain ⟨before, hbefore, hsame⟩ := List.mem_map.1 hblank
  refine ⟨hnames, before, hbefore, ?_⟩
  calc operation = operation.rename operation.names.id := by
        rw [Resolved.Operation.rename, ← hnames]
    _ = (operation.rename "").rename operation.names.id := rfl
    _ = (before.rename "").rename operation.names.id := by rw [hsame]
    _ = before.rename operation.names.id := rfl

/-- **No two operations of a group have one id.** -/
theorem nodup_ids_distinctIds (operations : List Resolved.Operation) :
    ((distinctIds operations).map (·.names.id)).Nodup :=
  (nodup_ids_renameRepeated (List.nil_subset _) (List.Subset.refl _)).2

end OpenApi
