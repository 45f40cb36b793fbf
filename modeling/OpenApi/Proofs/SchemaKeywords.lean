import OpenApi.Proofs.RecordLayout

/-!
# Keywords of a schema are read back

The values of the keywords of a schema that have a reader of their own: types, bounds that may be
flags, and what is said of other properties.

## Main statements

* `TypeSet.keeps_read`, `ExclusiveBound.keeps_read`: one type or several, a flag or a limit.
* `AdditionalProperties.keeps_read`: a flag, or the schema of the values.
-/
namespace OpenApi

open Node (asChoice)

/-! ## Types -/

theorem SchemaType.lookup_byName (type : SchemaType) :
    SchemaType.byName.lookup type.name = some type := by
  cases type <;> decide

theorem SchemaType.keeps_choice : Keeps 0 (asChoice SchemaType.byName) SchemaType.toJson :=
  OpenApi.keeps_choice lookup_byName

/-- One type or several are kept. -/
theorem TypeSet.keeps_read : Keeps 0 TypeSet.read TypeSet.toJson := by
  intro room node value hroom hplain hread
  rw [TypeSet.read] at hread
  split at hread
  · rename_i type _
    obtain rfl := Except.ok.inj hread
    have hkept := kept_choice SchemaType.lookup_byName room type
    refine ⟨?_, hkept.plain⟩
    rw [TypeSet.read, TypeSet.toJson, SchemaType.toJson, hkept.reads]
  · obtain ⟨types, htypes, rfl⟩ := Decoded.map_eq_ok_iff.1 hread
    have hkept := Keeps.list SchemaType.keeps_choice hroom hplain htypes
    refine ⟨?_, hkept.plain⟩
    -- several types are written as a list, which names no single type
    have hno : ∃ fault, asChoice SchemaType.byName (.ofJson (TypeSet.toJson (.several types)))
        = .error fault := by
      rw [TypeSet.toJson, Json.ofList, Node.ofJson_array]
      exact ⟨_, rfl⟩
    obtain ⟨fault, hfault⟩ := hno
    rw [TypeSet.read, hfault]
    exact Decoded.map_eq_ok_iff.2 ⟨types, hkept.reads, rfl⟩

/-! ## Bounds -/

/-- A flag or a limit is kept: what is written for a limit is no flag. -/
theorem ExclusiveBound.keeps_read : Keeps 0 ExclusiveBound.read ExclusiveBound.toJson := by
  intro room node value hroom hplain hread
  unfold ExclusiveBound.read at hread
  split at hread
  · obtain rfl := Except.ok.inj hread
    exact ⟨rfl, .bool⟩
  · obtain ⟨limit, hlimit, rfl⟩ := Decoded.map_eq_ok_iff.1 hread
    have hkept := keeps_double hroom hplain hlimit
    refine ⟨?_, hkept.plain⟩
    have hreads := hkept.reads
    rw [ExclusiveBound.toJson]
    unfold ExclusiveBound.read
    split
    · rename_i heq
      rw [heq] at hreads
      cases hreads
    · exact Decoded.map_eq_ok_iff.2 ⟨limit, hreads, rfl⟩

/-! ## Other properties -/

/-- The value of what a schema says of other properties. -/
def AdditionalProperties.toJson (write : Referable Schema → Json) :
    AdditionalProperties Schema → Json
  | .allowed flag => .bool flag
  | .values schema => write schema

/-- What is said of other properties is kept if a schema is never read from a flag. -/
theorem AdditionalProperties.keeps_read {least : Nat} {read : Node → Decoded (Referable Schema)}
    {write : Referable Schema → Json} (h : Keeps least read write)
    (hflag : ∀ flag, ∃ fault, read (.bool flag) = .error fault) :
    Keeps least (AdditionalProperties.read read) (AdditionalProperties.toJson write) := by
  intro room node value hroom hplain hread
  unfold AdditionalProperties.read at hread
  split at hread
  · obtain rfl := Except.ok.inj hread
    exact ⟨rfl, .bool⟩
  · obtain ⟨schema, hschema, rfl⟩ := Decoded.map_eq_ok_iff.1 hread
    have hkept := h hroom hplain hschema
    refine ⟨?_, hkept.plain⟩
    have hreads := hkept.reads
    rw [AdditionalProperties.toJson]
    unfold AdditionalProperties.read
    split
    · rename_i flag heq
      obtain ⟨fault, hfault⟩ := hflag flag
      rw [heq, hfault] at hreads
      cases hreads
    · exact Decoded.map_eq_ok_iff.2 ⟨schema, hreads, rfl⟩

end OpenApi
