import Mathlib.Data.List.Basic
import Mathlib.Data.List.Induction
import OpenApi.Dict

/-!
# The last value in the first position

A list of pairs is settled one pair after the other: a new key goes to the end, and a key that is
there already only gets a new value. What this leaves can be said without the run: the keys, in the
order in which they first came, each with the value that came last.

## Main statements

* `mem_keys_settle`, `pairwise_idxOf_settle`: which keys there are, and in which order.
* `lookup_settle`: the value of a key.
-/
namespace OpenApi

universe u w

variable {κ : Type w} {α : Type u} [DecidableEq κ]

/-! ## One pair -/

/-- Setting a key moves no key; a new one comes behind the others. -/
theorem keys_upsert (key : κ) (value : α) (entries : List (κ × α)) :
    (upsert key value entries).map Prod.fst =
      if key ∈ entries.map Prod.fst then entries.map Prod.fst
      else entries.map Prod.fst ++ [key] := by
  induction entries with
  | nil => simp [upsert]
  | cons entry rest ih =>
    obtain ⟨other, old⟩ := entry
    by_cases hkey : other = key
    · simp [upsert, hkey]
    · have hne : key ≠ other := Ne.symm hkey
      simp only [upsert, hkey, if_false, List.map_cons, ih, List.mem_cons, hne, false_or]
      split <;> simp

theorem settle_concat (entries : List (κ × α)) (entry : κ × α) :
    settle (entries ++ [entry]) = upsert entry.1 entry.2 (settle entries) := by
  simp [settle, List.foldl_append]

/-! ## All pairs -/

theorem mem_keys_settle {entries : List (κ × α)} {key : κ} :
    key ∈ (settle entries).map Prod.fst ↔ key ∈ entries.map Prod.fst := by
  induction entries using List.reverseRecOn with
  | nil => simp [settle]
  | append_singleton entries entry ih =>
    rw [settle_concat, mem_keys_upsert, ih]
    simp [or_comm]

/-- **The keys stand in the order in which they first came.** -/
theorem pairwise_idxOf_settle (entries : List (κ × α)) :
    ((settle entries).map Prod.fst).Pairwise fun first second =>
      (entries.map Prod.fst).idxOf first < (entries.map Prod.fst).idxOf second := by
  induction entries using List.reverseRecOn with
  | nil => simp [settle]
  | append_singleton entries entry ih =>
    -- A pair at the end does not change where the keys in front of it first came.
    have hold : ∀ key ∈ (settle entries).map Prod.fst,
        (entries.map Prod.fst ++ [entry.1]).idxOf key = (entries.map Prod.fst).idxOf key := by
      intro key hkey
      exact List.idxOf_append_of_mem (mem_keys_settle.1 hkey)
    have hfront : ((settle entries).map Prod.fst).Pairwise fun first second =>
        (entries.map Prod.fst ++ [entry.1]).idxOf first <
          (entries.map Prod.fst ++ [entry.1]).idxOf second := by
      refine ih.imp_of_mem fun {first second} hfirst hsecond hlt => ?_
      rw [hold first hfirst, hold second hsecond]
      exact hlt
    rw [settle_concat, keys_upsert, List.map_append, List.map_singleton]
    split
    case isTrue => exact hfront
    case isFalse hnew =>
      rw [List.pairwise_append]
      refine ⟨hfront, List.pairwise_singleton _ _, fun key hkey other hother => ?_⟩
      obtain rfl := List.mem_singleton.1 hother
      have hnot : entry.1 ∉ entries.map Prod.fst := fun hmem => hnew (mem_keys_settle.2 hmem)
      have hlt : (entries.map Prod.fst).idxOf key < (entries.map Prod.fst).length :=
        List.idxOf_lt_length_of_mem (mem_keys_settle.1 hkey)
      rw [hold key hkey, List.idxOf_append_of_notMem hnot]
      omega

/-- **A key has the value that came last.** -/
theorem lookup_settle (entries : List (κ × α)) (key : κ) :
    (settle entries).lookup key = ((entries.filter (·.1 == key)).getLast?).map Prod.snd := by
  induction entries using List.reverseRecOn with
  | nil => rfl
  | append_singleton entries entry ih =>
    rw [settle_concat, Dict.lookup_upsert, ih, List.filter_append, List.getLast?_append]
    by_cases hkey : key = entry.1
    · simp [hkey]
    · simp [hkey, Ne.symm hkey]

end OpenApi
