import OpenApi.Order

/-!
# Insertion-ordered maps

A map from names to values that remembers the order in which its names first came. Setting a name
that is there already replaces the value and keeps the position, so reading a mapping with a
repeated key leaves the last value in the first position.

## Main definitions

* `upsert`: set one key of a list of pairs.
* `Dict`: a list of named values with distinct names.
* `Dict.ofEntries`, `Dict.get?`, `Dict.sorted`: building, looking up, and listing by name.
-/
namespace OpenApi

universe u v w

variable {κ : Type w} {α : Type u} {β : Type v}

/-! ## Lists of pairs -/

/-- Set `key` to `value`: in place when the key is there, at the end when it is not. -/
def upsert [DecidableEq κ] (key : κ) (value : α) : List (κ × α) → List (κ × α)
  | [] => [(key, value)]
  | (other, old) :: rest =>
    if other = key then (key, value) :: rest else (other, old) :: upsert key value rest

theorem mem_keys_upsert [DecidableEq κ] {key x : κ} {value : α} {entries : List (κ × α)} :
    x ∈ (upsert key value entries).map Prod.fst ↔ x = key ∨ x ∈ entries.map Prod.fst := by
  induction entries with
  | nil => simp [upsert]
  | cons entry rest ih =>
    obtain ⟨other, old⟩ := entry
    unfold upsert
    split
    · rename_i heq
      subst heq
      simp
    · simp only [List.map_cons, List.mem_cons, ih]
      exact or_left_comm

theorem mem_of_mem_upsert [DecidableEq κ] {key : κ} {value : α} {entries : List (κ × α)}
    {entry : κ × α} (h : entry ∈ upsert key value entries) :
    entry = (key, value) ∨ entry ∈ entries := by
  induction entries with
  | nil => exact Or.inl (List.mem_singleton.1 h)
  | cons first rest ih =>
    obtain ⟨other, old⟩ := first
    unfold upsert at h
    split at h
    · exact (List.mem_cons.1 h).imp_right (List.mem_cons_of_mem _)
    · rcases List.mem_cons.1 h with rfl | h
      · exact Or.inr List.mem_cons_self
      · exact (ih h).imp_right (List.mem_cons_of_mem _)

theorem nodup_keys_upsert [DecidableEq κ] {key : κ} {value : α} {entries : List (κ × α)}
    (h : (entries.map Prod.fst).Nodup) : ((upsert key value entries).map Prod.fst).Nodup := by
  induction entries with
  | nil => simp [upsert]
  | cons entry rest ih =>
    obtain ⟨other, old⟩ := entry
    rw [List.map_cons, List.nodup_cons] at h
    unfold upsert
    split
    · rename_i heq
      subst heq
      exact List.nodup_cons.2 h
    · rename_i hne
      refine List.nodup_cons.2 ⟨fun hmem => ?_, ih h.2⟩
      exact (mem_keys_upsert.1 hmem).elim hne h.1

/-- A key that is not there comes at the end. -/
theorem upsert_of_not_mem [DecidableEq κ] {key : κ} {value : α} {entries : List (κ × α)}
    (h : key ∉ entries.map Prod.fst) : upsert key value entries = entries ++ [(key, value)] := by
  induction entries with
  | nil => rfl
  | cons entry rest ih =>
    rw [List.map_cons, List.mem_cons, not_or] at h
    rw [upsert, if_neg (Ne.symm h.1), ih h.2, List.cons_append]

/-- The pairs with each key once: the last value in the first position. -/
def settle [DecidableEq κ] (entries : List (κ × α)) : List (κ × α) :=
  entries.foldl (fun settled entry => upsert entry.1 entry.2 settled) []

theorem nodup_keys_settle [DecidableEq κ] (entries : List (κ × α)) :
    ((settle entries).map Prod.fst).Nodup := by
  have step : ∀ (entries settled : List (κ × α)), (settled.map Prod.fst).Nodup →
      ((entries.foldl (fun settled entry => upsert entry.1 entry.2 settled) settled).map
        Prod.fst).Nodup := by
    intro entries
    induction entries with
    | nil => exact fun _ h => h
    | cons entry rest ih => exact fun settled h => ih _ (nodup_keys_upsert h)
  exact step entries [] List.nodup_nil

theorem mem_of_mem_settle [DecidableEq κ] {entries : List (κ × α)} {entry : κ × α}
    (h : entry ∈ settle entries) : entry ∈ entries := by
  have step : ∀ (entries settled : List (κ × α)),
      entry ∈ entries.foldl (fun settled entry => upsert entry.1 entry.2 settled) settled →
        entry ∈ settled ∨ entry ∈ entries := by
    intro entries
    induction entries with
    | nil => exact fun _ h => Or.inl h
    | cons first rest ih =>
      intro settled h
      rcases ih _ h with hsettled | hrest
      · rcases mem_of_mem_upsert hsettled with rfl | hold
        · exact Or.inr List.mem_cons_self
        · exact Or.inl hold
      · exact Or.inr (List.mem_cons_of_mem first hrest)
  exact (step entries [] h).resolve_left List.not_mem_nil

/-- Pairs with distinct keys stay as they are. -/
theorem settle_eq_self [DecidableEq κ] {entries : List (κ × α)}
    (h : (entries.map Prod.fst).Nodup) : settle entries = entries := by
  have step : ∀ (entries settled : List (κ × α)), ((settled ++ entries).map Prod.fst).Nodup →
      entries.foldl (fun settled entry => upsert entry.1 entry.2 settled) settled
        = settled ++ entries := by
    intro entries
    induction entries with
    | nil => exact fun settled _ => (List.append_nil settled).symm
    | cons entry rest ih =>
      intro settled h
      have hnew : entry.1 ∉ settled.map Prod.fst := by
        rw [List.map_append, List.nodup_append] at h
        exact fun hmem => h.2.2 _ hmem _ (by simp) rfl
      rw [List.foldl_cons, upsert_of_not_mem hnew, ih, List.append_assoc, List.singleton_append]
      rwa [List.append_assoc, List.singleton_append]
  exact step entries [] h

/-! ## Maps -/

/-- Named values in the order in which their names first came, each name once. -/
structure Dict (α : Type u) where
  entries : List (String × α)
  distinct : (entries.map Prod.fst).Nodup

namespace Dict

theorem ext {d e : Dict α} (h : d.entries = e.entries) : d = e := by
  cases d
  cases e
  cases h
  rfl

instance [DecidableEq α] : DecidableEq (Dict α) := fun d e =>
  if h : d.entries = e.entries then isTrue (ext h) else isFalse fun he => h (he ▸ rfl)

/-- The map without a name. -/
def empty : Dict α := ⟨[], List.nodup_nil⟩

instance : EmptyCollection (Dict α) := ⟨empty⟩

instance : Inhabited (Dict α) := ⟨empty⟩

/-- The map that a list of pairs spells, a repeated name keeping its first position and its last
value. -/
def ofEntries (entries : List (String × α)) : Dict α :=
  ⟨settle entries, nodup_keys_settle entries⟩

theorem entries_ofEntries {entries : List (String × α)} (h : (entries.map Prod.fst).Nodup) :
    (ofEntries entries).entries = entries :=
  settle_eq_self h

/-- Set one name. -/
def insert (d : Dict α) (name : String) (value : α) : Dict α :=
  ⟨upsert name value d.entries, nodup_keys_upsert d.distinct⟩

/-- The value of a name. -/
def get? (d : Dict α) (name : String) : Option α := d.entries.lookup name

/-- The names in order. -/
def names (d : Dict α) : List String := d.entries.map Prod.fst

/-- The values in order. -/
def values (d : Dict α) : List α := d.entries.map Prod.snd

/-- The number of names. -/
def size (d : Dict α) : Nat := d.entries.length

/-- Whether there is no name. -/
def isEmpty (d : Dict α) : Bool := d.entries.isEmpty

/-- The named values by increasing name. -/
def sorted (d : Dict α) : List (String × α) := sortOn Prod.fst d.entries

/-- Change every value. -/
def map (f : α → β) (d : Dict α) : Dict β where
  entries := d.entries.map fun entry => (entry.1, f entry.2)
  distinct := by
    have : (d.entries.map fun entry => (entry.1, f entry.2)).map Prod.fst
        = d.entries.map Prod.fst := by simp [Function.comp_def]
    exact this ▸ d.distinct

/-- Keep the names that pass a test. -/
def filter (keep : String → Bool) (d : Dict α) : Dict α where
  entries := d.entries.filter fun entry => keep entry.1
  distinct := d.distinct.sublist (List.filter_sublist.map Prod.fst)

/-! ## Lookups -/

@[simp] theorem get?_empty (name : String) : (empty : Dict α).get? name = none := rfl

theorem lookup_upsert [DecidableEq κ] (key other : κ) (value : α) (entries : List (κ × α)) :
    (upsert key value entries).lookup other
      = if other = key then some value else entries.lookup other := by
  induction entries with
  | nil =>
    by_cases h : other = key
    · simp [upsert, h]
    · simp [upsert, List.lookup_cons, h, beq_eq_false_iff_ne.2 h]
  | cons entry rest ih =>
    obtain ⟨first, old⟩ := entry
    unfold upsert
    split
    · rename_i heq
      subst heq
      by_cases h : other = first <;> simp [List.lookup_cons, h, beq_eq_false_iff_ne.2]
    · rename_i hne
      by_cases hf : other = first
      · subst hf
        simp [hne]
      · simp [List.lookup_cons, beq_eq_false_iff_ne.2 hf, ih]

theorem get?_insert (d : Dict α) (name other : String) (value : α) :
    (d.insert name value).get? other = if other = name then some value else d.get? other :=
  lookup_upsert name other value d.entries

theorem lookup_eq_some_iff [DecidableEq κ] {key : κ} {value : α} {entries : List (κ × α)}
    (h : (entries.map Prod.fst).Nodup) :
    entries.lookup key = some value ↔ (key, value) ∈ entries := by
  induction entries with
  | nil => simp
  | cons entry rest ih =>
    obtain ⟨first, old⟩ := entry
    obtain ⟨hfirst, hrest⟩ := List.nodup_cons.1 h
    by_cases hkey : key = first
    · subst hkey
      have hno : (key, value) ∉ rest := fun hmem =>
        hfirst (List.mem_map.2 ⟨(key, value), hmem, rfl⟩)
      simp [hno, eq_comm]
    · rw [List.lookup_cons, beq_eq_false_iff_ne.2 hkey]
      simp [ih hrest, hkey]

theorem lookup_eq_none_iff [DecidableEq κ] {key : κ} {entries : List (κ × α)} :
    entries.lookup key = none ↔ key ∉ entries.map Prod.fst := by
  rw [List.lookup_eq_none_iff, List.mem_map]
  constructor
  · rintro h ⟨entry, hentry, rfl⟩
    simpa using h entry hentry
  · intro h entry hentry
    exact bne_iff_ne.2 fun heq => h ⟨entry, hentry, heq.symm⟩

/-- The first entry with a key has the value that is looked up. -/
theorem find?_fst [DecidableEq κ] (key : κ) (entries : List (κ × α)) :
    entries.find? (·.1 == key) = (entries.lookup key).map (key, ·) := by
  induction entries with
  | nil => rfl
  | cons entry rest ih =>
    obtain ⟨first, old⟩ := entry
    by_cases h : key = first
    · subst h
      simp
    · rw [List.lookup_cons, beq_eq_false_iff_ne.2 h]
      simpa [Ne.symm h] using ih

/-- The entries are the names with their values. -/
theorem mem_entries_iff {d : Dict α} {name : String} {value : α} :
    (name, value) ∈ d.entries ↔ d.get? name = some value :=
  (lookup_eq_some_iff d.distinct).symm

theorem mem_sorted_iff {d : Dict α} {name : String} {value : α} :
    (name, value) ∈ d.sorted ↔ d.get? name = some value :=
  mem_sortOn.trans mem_entries_iff

/-- A name has a value exactly when it stands in the list. -/
theorem mem_names_iff {d : Dict α} {name : String} :
    name ∈ d.names ↔ ∃ value, d.get? name = some value := by
  rw [← Option.ne_none_iff_exists', ne_eq, get?, lookup_eq_none_iff, Decidable.not_not, names]

theorem mem_values_iff {d : Dict α} {value : α} :
    value ∈ d.values ↔ ∃ name, d.get? name = some value := by
  simp only [values, List.mem_map, Prod.exists, exists_eq_right, mem_entries_iff]

end Dict

end OpenApi
