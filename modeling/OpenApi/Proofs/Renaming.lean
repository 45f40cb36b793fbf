import Mathlib.Order.Bounds.Defs
import OpenApi.Proofs.OperationIds

/-!
# Renaming, one operation after the other

What each operation of a group is called in the end. The ids that are taken when a run comes to an
operation are those of all operations and those that the operations before it were given, so an
operation is renamed exactly when an earlier one has its id, and its number is the least that is
free. Numbers that were taken stay taken, so a run may count on for each id instead of starting
from one again.

## Main definitions

* `IdsSettled`: what the operations of a group become.
* `countedIds`: the run that counts on.

## Main statements

* `renameRepeated_append`: the ids that a run has taken and kept when it has come some way.
* `countedIds_eq`: counting on finds the same ids.
* `idsSettled_distinctIds`: what renaming makes of a group, and that it does so once.
-/
namespace OpenApi

/-- The ids of operations. -/
def idsOf (operations : List Resolved.Operation) : List String := operations.map (·.names.id)

@[simp] theorem idsOf_nil : idsOf [] = [] := rfl

@[simp] theorem idsOf_cons (operation : Resolved.Operation) (operations : List Resolved.Operation) :
    idsOf (operation :: operations) = operation.names.id :: idsOf operations := rfl

variable {taken kept : List String} {operations front : List Resolved.Operation}
  {operation : Resolved.Operation} {id : String}

/-! ## A run that has come some way -/

/-- An id that is taken is kept by a run exactly when an operation has it. -/
theorem mem_idsOf_renameRepeated_iff (kept : List String) (operations : List Resolved.Operation)
    (htaken : id ∈ taken) :
    id ∈ idsOf (renameRepeated taken kept operations) ∨ id ∈ kept ↔
      id ∈ idsOf operations ∨ id ∈ kept := by
  induction operations generalizing taken kept with
  | nil => rfl
  | cons operation rest ih =>
    simp only [renameRepeated]
    split
    case isTrue hkept =>
      have hnew : id ≠ freshId taken operation.names.id :=
        fun heq => freshId_not_mem taken operation.names.id (heq ▸ htaken)
      have hrest := ih (freshId taken operation.names.id :: kept)
        (List.mem_cons_of_mem (freshId taken operation.names.id) htaken)
      simp only [List.mem_cons, hnew, false_or] at hrest
      simp only [idsOf_cons, List.mem_cons, names_rename, id_of, hnew, false_or, hrest]
      have hold : operation.names.id ∈ kept := by simpa using hkept
      grind
    case isFalse hkept =>
      have hrest := ih (operation.names.id :: kept) htaken
      simp only [List.mem_cons] at hrest
      simp only [idsOf_cons, List.mem_cons]
      grind

/-- A run over operations whose ids are taken goes on, behind some of them, with the ids that were
taken and kept before and those that these operations were given. -/
theorem renameRepeated_append (kept : List String) (hfront : idsOf front ⊆ taken)
    (back : List Resolved.Operation) :
    ∃ taken' kept', renameRepeated taken kept (front ++ back) =
        renameRepeated taken kept front ++ renameRepeated taken' kept' back
      ∧ (∀ id, id ∈ taken' ↔ id ∈ taken ∨ id ∈ idsOf (renameRepeated taken kept front))
      ∧ ∀ id, id ∈ kept' ↔ id ∈ kept ∨ id ∈ idsOf (renameRepeated taken kept front) := by
  induction front generalizing taken kept with
  | nil => exact ⟨taken, kept, rfl, by simp [renameRepeated], by simp [renameRepeated]⟩
  | cons operation rest ih =>
    obtain ⟨hid, hrest⟩ := List.cons_subset.1 hfront
    simp only [List.cons_append, renameRepeated]
    split
    case isTrue =>
      have hrest' := List.Subset.trans hrest
        (List.subset_cons_self (freshId taken operation.names.id) taken)
      obtain ⟨taken', kept', heq, htaken', hkept'⟩ :=
        ih (freshId taken operation.names.id :: kept) hrest'
      refine ⟨taken', kept', by rw [heq]; rfl, fun id => ?_, fun id => ?_⟩
      · rw [htaken']
        simp only [idsOf_cons, List.mem_cons, names_rename, id_of]
        tauto
      · rw [hkept']
        simp only [idsOf_cons, List.mem_cons, names_rename, id_of]
        tauto
    case isFalse =>
      obtain ⟨taken', kept', heq, htaken', hkept'⟩ := ih (operation.names.id :: kept) hrest
      refine ⟨taken', kept', by rw [heq]; rfl, fun id => ?_, fun id => ?_⟩
      · rw [htaken']
        simp only [idsOf_cons, List.mem_cons]
        have : id = operation.names.id → id ∈ taken := fun heq => heq ▸ hid
        tauto
      · rw [hkept']
        simp only [idsOf_cons, List.mem_cons]
        tauto

/-! ## The number of a new id -/

/-- The numbers that make an id one that is not taken; numbers start at one. -/
def freeNumbers (taken : List String) (id : String) : Set Nat :=
  {k | 1 ≤ k ∧ numberedId id k ∉ taken}

/-- A new id has the least number that is free. -/
theorem exists_isLeast_freshId (taken : List String) (id : String) :
    ∃ number, IsLeast (freeNumbers taken id) number ∧ freshId taken id = numberedId id number := by
  obtain ⟨k, hpos, heq, hfree, hbefore⟩ := freshId_eq taken id
  refine ⟨k, ⟨⟨hpos, hfree⟩, fun j hj => ?_⟩, heq⟩
  by_contra hlt
  exact hj.2 (hbefore j hj.1 (Nat.lt_of_not_le hlt))

theorem freeNumbers_congr {others : List String} (h : ∀ id, id ∈ taken ↔ id ∈ others)
    (id : String) : freeNumbers taken id = freeNumbers others id := by
  simp only [freeNumbers, h]

/-! ## What becomes of each operation -/

theorem length_renameRepeated :
    (renameRepeated taken kept operations).length = operations.length := by
  have hunits : (renameRepeated taken kept operations).map (fun _ => ()) =
      operations.map fun _ => () :=
    map_renameRepeated _ fun _ _ => rfl
  simpa using congrArg List.length hunits

/-- What becomes of an operation depends on the ids of those in front of it, and on the ids that are
taken: those of all operations and those that the operations in front of it were given. -/
theorem getElem?_distinctIds {i : Nat} (h : operations[i]? = some operation) :
    ∃ taken, (∀ id, id ∈ taken ↔ id ∈ idsOf operations ++ idsOf ((distinctIds operations).take i))
      ∧ (distinctIds operations)[i]? = some
          (if operation.names.id ∈ idsOf (operations.take i) then
            operation.rename (freshId taken operation.names.id)
          else operation) := by
  obtain ⟨hi, rfl⟩ := List.getElem?_eq_some_iff.1 h
  have hsplit : operations = operations.take i ++ operations[i] :: operations.drop (i + 1) := by
    simp
  have hids : idsOf (operations.take i) ⊆ idsOf operations :=
    List.map_subset _ (List.take_subset i operations)
  obtain ⟨taken, kept, heq, htaken, hkept⟩ := renameRepeated_append [] hids
    (operations[i] :: operations.drop (i + 1))
  rw [← hsplit] at heq
  set given := renameRepeated (idsOf operations) [] (operations.take i) with hgiven
  have hlength : given.length = i := by
    rw [hgiven, length_renameRepeated, List.length_take, Nat.min_eq_left (Nat.le_of_lt hi)]
  have hresult : distinctIds operations =
      given ++ renameRepeated taken kept (operations[i] :: operations.drop (i + 1)) := heq
  have hrepeated : kept.contains operations[i].names.id = true ↔
      operations[i].names.id ∈ idsOf (operations.take i) := by
    have hmem : operations[i].names.id ∈ idsOf operations :=
      List.mem_map_of_mem (List.getElem_mem hi)
    have := mem_idsOf_renameRepeated_iff [] (operations.take i) hmem
    simpa [hkept, ← hgiven] using this
  refine ⟨taken, fun id => ?_, ?_⟩
  · rw [htaken, hresult, List.take_left' hlength, List.mem_append]
  · rw [hresult, List.getElem?_append_right (Nat.le_of_eq hlength), hlength, Nat.sub_self,
      renameRepeated]
    simp only [hrepeated]
    split <;> rfl

theorem renameRepeated_eq_self (hnodup : (idsOf operations).Nodup)
    (hkept : ∀ id ∈ idsOf operations, id ∉ kept) :
    renameRepeated taken kept operations = operations := by
  induction operations generalizing kept with
  | nil => rfl
  | cons operation rest ih =>
    obtain ⟨hid, hrest⟩ := List.nodup_cons.1 hnodup
    have hnot : kept.contains operation.names.id = false := by
      simpa using hkept operation.names.id List.mem_cons_self
    have hfresh : ∀ id ∈ idsOf rest, id ∉ operation.names.id :: kept := by
      intro id hmem hin
      rcases List.mem_cons.1 hin with rfl | hin
      · exact hid hmem
      · exact hkept id (List.mem_cons_of_mem _ hmem) hin
    simp only [renameRepeated, hnot, Bool.false_eq_true, if_false]
    rw [ih hrest hfresh]

/-- Operations that have distinct ids keep them. -/
theorem distinctIds_eq_self (h : (idsOf operations).Nodup) : distinctIds operations = operations :=
  renameRepeated_eq_self h fun _ _ => List.not_mem_nil

/-! ## Counting on -/

/-- Rename the operations whose id is among those kept by earlier ones. The search for the number of
an id goes on behind the number that was found for that id before. -/
def renameCounting : (taken kept : List String) → (count : String → Nat) →
    List Resolved.Operation → List Resolved.Operation
  | _, _, _, [] => []
  | taken, kept, count, operation :: rest =>
    let id := operation.names.id
    if kept.contains id then
      let number := numberAbove taken id (count id)
      let renamed := numberedId id number
      operation.rename renamed ::
        renameCounting (renamed :: taken) (renamed :: kept) (Function.update count id number) rest
    else operation :: renameCounting taken (id :: kept) count rest

/-- The operations with distinct ids, found by counting on. -/
def countedIds (operations : List Resolved.Operation) : List Resolved.Operation :=
  renameCounting (idsOf operations) [] (fun _ => 0) operations

/-- Counting on for an id finds its least free number, as long as those up to the count
are taken. -/
theorem numberedId_numberAbove {count : Nat}
    (hcount : ∀ j, 1 ≤ j → j ≤ count → numberedId id j ∈ taken) :
    numberedId id (numberAbove taken id count) = freshId taken id := by
  obtain ⟨habove, hfree, hbefore⟩ := numberAbove_spec taken id count
  obtain ⟨k, hpos, heq, hfresh, hleast⟩ := freshId_eq taken id
  have hk : count < k := by
    by_contra hle
    exact hfresh (hcount k hpos (Nat.le_of_not_lt hle))
  have hnotlt : ¬numberAbove taken id count < k := fun hlt => hfree (hleast _ (by omega) hlt)
  have hnotgt : ¬k < numberAbove taken id count := fun hlt => hfresh (hbefore k hk hlt)
  rw [heq, show numberAbove taken id count = k by omega]

/-- The invariant of a run that counts: the numbers up to the count of an id are taken. -/
theorem renameCounting_eq {count : String → Nat}
    (hcount : ∀ id j, 1 ≤ j → j ≤ count id → numberedId id j ∈ taken) :
    renameCounting taken kept count operations = renameRepeated taken kept operations := by
  induction operations generalizing taken kept count with
  | nil => rfl
  | cons operation rest ih =>
    simp only [renameCounting, renameRepeated]
    split
    case isFalse => rw [ih hcount]
    case isTrue =>
      have hnew := numberedId_numberAbove (hcount operation.names.id)
      rw [hnew, ih fun id j hpos hle => ?_]
      by_cases hid : id = operation.names.id
      · subst hid
        rw [Function.update_self] at hle
        obtain ⟨_, _, hbefore⟩ :=
          numberAbove_spec taken operation.names.id (count operation.names.id)
        rcases Nat.lt_or_eq_of_le hle with hlt | rfl
        · refine List.mem_cons_of_mem _ ?_
          rcases Nat.lt_or_ge (count operation.names.id) j with habove | hbelow
          · exact hbefore j habove hlt
          · exact hcount operation.names.id j hpos hbelow
        · exact hnew ▸ List.mem_cons_self
      · rw [Function.update_of_ne hid] at hle
        exact List.mem_cons_of_mem _ (hcount id j hpos hle)

/-- **Counting on finds the same ids** as starting from one for each operation. -/
theorem countedIds_eq (operations : List Resolved.Operation) :
    countedIds operations = distinctIds operations :=
  renameCounting_eq fun _ j hpos hle => absurd hpos (by omega)

/-! ## The operations of a group -/

/-- What the operations of a group become when their ids are made distinct. -/
structure IdsSettled (operations renamed : List Resolved.Operation) : Prop where
  /-- The operations stay, in their order, and nothing but their names changes. -/
  forall₂_names : List.Forall₂ (fun before after => after = { before with names := after.names })
    operations renamed
  /-- The first operation with an id keeps it. -/
  keeps : ∀ i operation, operations[i]? = some operation →
    operation.names.id ∉ idsOf (operations.take i) → renamed[i]? = some operation
  /-- A later one gets the least number with which its id is that of no operation and was not given
  to an earlier one. -/
  renames : ∀ i operation, operations[i]? = some operation →
    operation.names.id ∈ idsOf (operations.take i) → ∃ number,
      IsLeast (freeNumbers (idsOf operations ++ idsOf (renamed.take i)) operation.names.id) number
        ∧ renamed[i]? = some (operation.rename (numberedId operation.names.id number))
  nodup_ids : (idsOf renamed).Nodup

/-- **Renaming settles the ids of a group**: the least free numbers are found, also by counting on,
and once is enough. -/
theorem idsSettled_distinctIds (operations : List Resolved.Operation) :
    IdsSettled operations (distinctIds operations) ∧ countedIds operations = distinctIds operations
      ∧ distinctIds (distinctIds operations) = distinctIds operations := by
  refine ⟨?_, countedIds_eq operations, distinctIds_eq_self (nodup_ids_distinctIds operations)⟩
  constructor
  case forall₂_names =>
    have hblank := map_distinctIds (·.rename "") (fun _ _ => rfl) operations
    have hsame : List.Forall₂ (· = ·) (operations.map (·.rename ""))
        ((distinctIds operations).map (·.rename "")) := by rw [hblank, List.forall₂_eq_eq_eq]
    rw [List.forall₂_map_left_iff, List.forall₂_map_right_iff] at hsame
    refine hsame.imp fun before after heq => ?_
    calc after = { after.rename "" with names := after.names } := rfl
      _ = { before.rename "" with names := after.names } := by rw [heq]
  case keeps =>
    intro i operation hat hnew
    obtain ⟨taken, _, heq⟩ := getElem?_distinctIds hat
    rw [heq, if_neg hnew]
  case renames =>
    intro i operation hat hold
    obtain ⟨taken, htaken, heq⟩ := getElem?_distinctIds hat
    obtain ⟨number, hleast, hfresh⟩ := exists_isLeast_freshId taken operation.names.id
    rw [freeNumbers_congr htaken] at hleast
    exact ⟨number, hleast, by rw [heq, if_pos hold, hfresh]⟩
  case nodup_ids => exact nodup_ids_distinctIds operations

end OpenApi
