import Mathlib.Data.List.Nodup
import OpenApi.Dict

/-!
# Listing by name

What a sorted list is when no two items have one key: the keys increase strictly, and the list does
not depend on the order in which the items came.

## Main statements

* `pairwise_lt_sortOn`: the keys increase strictly.
* `sortOn_eq_of_perm`: the list depends on which items there are, not on their order.
* `find?_sortOn`: of several items with one key the first stays the first.
-/
namespace OpenApi

universe u v

variable {α : Type u} {key : α → String} {items others : List α}

theorem pairwise_lt_sortOn (h : (items.map key).Nodup) :
    (sortOn key items).Pairwise (key · < key ·) := by
  have hne : (sortOn key items).Pairwise (key · ≠ key ·) :=
    List.pairwise_map.1 (((sortOn_perm key items).map key).nodup_iff.2 h)
  refine ((pairwise_sortOn key items).and hne).imp fun {a b} hab => ?_
  exact String.not_le.1 fun hle => hab.2 (String.le_antisymm hab.1 hle)

/-- **Sorting forgets the order of the items**, as long as no two of them have one key. -/
theorem sortOn_eq_of_perm (hperm : items.Perm others) (h : (items.map key).Nodup) :
    sortOn key items = sortOn key others := by
  have hsorted : (sortOn key items).Perm (sortOn key others) :=
    (sortOn_perm key items).trans (hperm.trans (sortOn_perm key others).symm)
  refine hsorted.eq_of_pairwise ?_ (pairwise_sortOn key items) (pairwise_sortOn key others)
  intro a b ha hb hab hba
  have hb' : b ∈ items := hperm.mem_iff.2 (mem_sortOn.1 hb)
  exact List.inj_on_of_nodup_map h (mem_sortOn.1 ha) hb' (String.le_antisymm hab hba)

theorem sortOn_map {β : Type v} (f : β → α) (items : List β) :
    sortOn key (items.map f) = (sortOn (fun item => key (f item)) items).map f := by
  have hinsert (item : β) (others : List β) : insertOn key (f item) (others.map f) =
      (insertOn (fun item => key (f item)) item others).map f := by
    induction others with
    | nil => rfl
    | cons other rest ih =>
      simp only [List.map_cons, insertOn]
      split
      · rfl
      · rw [ih, List.map_cons]
  induction items with
  | nil => rfl
  | cons item rest ih =>
    rw [List.map_cons, sortOn, List.foldr_cons, ← sortOn, ih, hinsert]
    rfl

theorem find?_insertOn (k : String) (item : α) (items : List α) :
    (insertOn key item items).find? (key · == k) = (item :: items).find? (key · == k) := by
  induction items with
  | nil => rfl
  | cons other rest ih =>
    simp only [insertOn]
    split
    · rfl
    · rename_i hle
      have hne : key item ≠ key other := fun heq => hle (heq ▸ String.le_refl _)
      by_cases hother : key other = k
      · have hitem : (key item == k) = false :=
          beq_eq_false_iff_ne.2 fun heq => hne (heq.trans hother.symm)
        simp [hother, hitem]
      · rw [List.find?_cons, beq_eq_false_iff_ne.2 hother, ih, List.find?_cons, List.find?_cons,
          List.find?_cons, beq_eq_false_iff_ne.2 hother]

/-- Sorting keeps the first item of each key in front of the others. -/
theorem find?_sortOn (k : String) (items : List α) :
    (sortOn key items).find? (key · == k) = items.find? (key · == k) := by
  induction items with
  | nil => rfl
  | cons item rest ih =>
    rw [sortOn, List.foldr_cons, ← sortOn, find?_insertOn, List.find?_cons, List.find?_cons, ih]

namespace Dict

variable (d : Dict α)

theorem sorted_perm : d.sorted.Perm d.entries := sortOn_perm Prod.fst d.entries

theorem pairwise_sorted : d.sorted.Pairwise (·.1 < ·.1) := pairwise_lt_sortOn d.distinct

theorem find?_sorted (name : String) :
    d.sorted.find? (·.1 == name) = (d.get? name).map (name, ·) := by
  rw [sorted, find?_sortOn, find?_fst, get?]

end Dict

end OpenApi
