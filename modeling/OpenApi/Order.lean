/-!
# Sorting by a text key

A document lists its entries in any order; what is resolved from it is listed by name. Texts are
compared character by character, which for UTF-8 is the order of their bytes. The sort is stable.

## Main definitions

* `sortOn key items`: the items by increasing key.
* `distinctSorted names`: the distinct names, in increasing order.
-/
namespace OpenApi

universe u

variable {α : Type u}

/-! ## Sorting -/

/-- Put `item` in front of the first item whose key is not smaller. -/
def insertOn (key : α → String) (item : α) : List α → List α
  | [] => [item]
  | other :: rest =>
    if key item ≤ key other then item :: other :: rest else other :: insertOn key item rest

/-- The items by increasing key; items of one key keep their order. -/
def sortOn (key : α → String) (items : List α) : List α :=
  items.foldr (insertOn key) []

theorem insertOn_perm (key : α → String) (item : α) (items : List α) :
    (insertOn key item items).Perm (item :: items) := by
  induction items with
  | nil => exact .refl _
  | cons other rest ih =>
    unfold insertOn
    split
    · exact .refl _
    · exact (ih.cons other).trans (.swap item other rest)

theorem sortOn_perm (key : α → String) (items : List α) : (sortOn key items).Perm items := by
  induction items with
  | nil => exact .refl _
  | cons item rest ih => exact (insertOn_perm key item _).trans (ih.cons item)

theorem pairwise_insertOn {key : α → String} {item : α} {items : List α}
    (h : items.Pairwise (key · ≤ key ·)) : (insertOn key item items).Pairwise (key · ≤ key ·) := by
  induction items with
  | nil => simp [insertOn]
  | cons other rest ih =>
    unfold insertOn
    obtain ⟨hother, hrest⟩ := List.pairwise_cons.1 h
    split
    · rename_i hle
      refine List.pairwise_cons.2 ⟨fun x hx => ?_, h⟩
      rcases List.mem_cons.1 hx with rfl | hx
      · exact hle
      · exact String.le_trans hle (hother x hx)
    · rename_i hle
      refine List.pairwise_cons.2 ⟨fun x hx => ?_, ih hrest⟩
      rcases List.mem_cons.1 ((insertOn_perm key item rest).mem_iff.1 hx) with rfl | hx
      · exact (String.le_total (key other) (key x)).resolve_right hle
      · exact hother x hx

theorem pairwise_sortOn (key : α → String) (items : List α) :
    (sortOn key items).Pairwise (key · ≤ key ·) := by
  induction items with
  | nil => exact .nil
  | cons item rest ih => exact pairwise_insertOn ih

@[simp] theorem mem_sortOn {key : α → String} {items : List α} {x : α} :
    x ∈ sortOn key items ↔ x ∈ items :=
  (sortOn_perm key items).mem_iff

/-! ## Sorted sets of names -/

/-- Add a name to an increasing list that may hold it already. -/
def insertName (name : String) : List String → List String
  | [] => [name]
  | other :: rest =>
    if name < other then name :: other :: rest
    else if name = other then other :: rest
    else other :: insertName name rest

/-- The distinct names among `names`, in increasing order. -/
def distinctSorted (names : List String) : List String :=
  names.foldr insertName []

theorem mem_insertName {name x : String} {names : List String} :
    x ∈ insertName name names ↔ x = name ∨ x ∈ names := by
  induction names with
  | nil => simp [insertName]
  | cons other rest ih =>
    unfold insertName
    split
    · simp
    · split
      · rename_i heq
        subst heq
        simp
      · simp only [List.mem_cons, ih]
        exact or_left_comm

@[simp] theorem mem_distinctSorted {x : String} {names : List String} :
    x ∈ distinctSorted names ↔ x ∈ names := by
  induction names with
  | nil => simp [distinctSorted]
  | cons name rest ih =>
    have : distinctSorted (name :: rest) = insertName name (distinctSorted rest) := rfl
    rw [this, mem_insertName, ih, List.mem_cons]

theorem pairwise_insertName {name : String} {names : List String}
    (h : names.Pairwise (· < ·)) : (insertName name names).Pairwise (· < ·) := by
  induction names with
  | nil => simp [insertName]
  | cons other rest ih =>
    unfold insertName
    obtain ⟨hother, hrest⟩ := List.pairwise_cons.1 h
    split
    · rename_i hlt
      refine List.pairwise_cons.2 ⟨fun x hx => ?_, h⟩
      rcases List.mem_cons.1 hx with rfl | hx
      · exact hlt
      · exact String.lt_trans hlt (hother x hx)
    · split
      · exact h
      · rename_i hnot hne
        refine List.pairwise_cons.2 ⟨fun x hx => ?_, ih hrest⟩
        rcases mem_insertName.1 hx with rfl | hx
        · exact String.not_le.1 fun hle => hne (String.le_antisymm hle (String.not_lt.1 hnot))
        · exact hother x hx

theorem pairwise_distinctSorted (names : List String) :
    (distinctSorted names).Pairwise (· < ·) := by
  induction names with
  | nil => exact .nil
  | cons name rest ih => exact pairwise_insertName ih

end OpenApi
