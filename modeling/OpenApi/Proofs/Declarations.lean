import OpenApi.Resolution.Model

/-!
# Declared properties

A schema and the branches of its `allOf` may declare a property more than once. What is kept is, for
each name, what a search for the name finds.

## Main statements

* `mem_firstDeclarations_iff`: the declarations that are kept.
* `nodup_name_firstDeclarations`: each name is kept once.
-/
namespace OpenApi

variable {seen : List String} {found : List Declaration}

/-- **A declaration is kept** when it is the first of its name, and the name was not seen before. -/
theorem mem_firstDeclarations_iff {declaration : Declaration} :
    declaration ∈ firstDeclarations seen found ↔
      declaration.name ∉ seen ∧ found.find? (·.name == declaration.name) = some declaration := by
  induction found generalizing seen with
  | nil => simp [firstDeclarations]
  | cons first rest ih =>
    by_cases hseen : first.name ∈ seen
    · have hskip : firstDeclarations seen (first :: rest) = firstDeclarations seen rest := by
        simp [firstDeclarations, hseen]
      rw [hskip, ih]
      refine and_congr_right fun hnot => ?_
      have hne : (first.name == declaration.name) = false :=
        beq_eq_false_iff_ne.2 fun heq => hnot (heq ▸ hseen)
      rw [List.find?_cons, hne]
    · have hkeep : firstDeclarations seen (first :: rest) =
          first :: firstDeclarations (first.name :: seen) rest := by
        simp [firstDeclarations, hseen]
      rw [hkeep, List.mem_cons, ih, List.mem_cons]
      by_cases hname : first.name = declaration.name
      · simp only [List.find?_cons, hname, beq_self_eq_true, Option.some.injEq]
        have hnot : declaration.name ∉ seen := hname ▸ hseen
        simp [hnot, eq_comm]
      · have hne : declaration ≠ first := fun heq => hname (heq ▸ rfl)
        simp only [List.find?_cons, beq_eq_false_iff_ne.2 hname]
        simp [hne, Ne.symm hname]

/-- Each name is kept once. -/
theorem nodup_name_firstDeclarations (seen : List String) (found : List Declaration) :
    ((firstDeclarations seen found).map (·.name)).Nodup := by
  induction found generalizing seen with
  | nil => exact List.nodup_nil
  | cons first rest ih =>
    rw [firstDeclarations]
    split
    · exact ih seen
    · refine List.nodup_cons.2 ⟨fun hmem => ?_, ih _⟩
      obtain ⟨other, hother, heq⟩ := List.mem_map.1 hmem
      exact (mem_firstDeclarations_iff.1 hother).1 (heq ▸ List.mem_cons_self)

namespace Dialect

variable (dialect : Dialect)

@[simp] theorem base_property (name : String) (required : Bool) (schema : Referable Schema) :
    (dialect.property name required schema).names.base = name := by
  cases schema <;> rfl

@[simp] theorem required_property (name : String) (required : Bool) (schema : Referable Schema) :
    (dialect.property name required schema).required = required := by
  cases schema <;> rfl

/-- The declared properties of a body have different names. -/
theorem nodup_base_declared (body : Schema) :
    (((firstDeclarations [] (declarations body)).map dialect.declared).map
      (·.names.base)).Nodup := by
  have hbase : ((firstDeclarations [] (declarations body)).map dialect.declared).map
      (·.names.base) = (firstDeclarations [] (declarations body)).map (·.name) := by
    simp [declared, Function.comp_def]
  rw [hbase]
  exact nodup_name_firstDeclarations [] _

end Dialect

end OpenApi
