import OpenApi.Proofs.Arranging
import OpenApi.Proofs.Declarations

/-!
# Models of arranged schemas

The model of a schema does not change when the schema is arranged. Nothing looks into the properties
of a schema in use, and the properties of a model are listed by name. The one place where an order
could matter is where a schema and the branches of its `allOf` declare a property again: the first
declaration of each name is kept. Sorting leaves the first of each name first, and the branches stay
in their order.

## Main definitions

* `Declaration.arranged`: a declaration with its schema arranged.

## Main statements

* `Dialect.property_arranged`: a property is the same.
* `Dialect.vars_arranged`: the properties of a model are the same.
* `Dialect.bodyModel_arranged`: the model of a body is the same.
-/
namespace OpenApi

/-! ## What arranging keeps of a schema -/

namespace Schema

variable (schema : Schema)

@[simp] theorem toKeywords_arranged : schema.arranged.toKeywords = schema.toKeywords := by
  rw [arranged_eq]

@[simp] theorem isEmpty_properties_arranged :
    schema.arranged.properties.isEmpty = schema.properties.isEmpty := by
  rw [arranged_eq, (sortOn_perm _ _).isEmpty_eq, List.isEmpty_map]

@[simp] theorem additionalProperties_arranged : schema.arranged.additionalProperties =
    schema.additionalProperties.map AdditionalProperties.arranged := by
  rw [arranged_eq]

@[simp] theorem items_arranged : schema.arranged.items = schema.items.map arrangedSchema := by
  rw [arranged_eq]

@[simp] theorem allOf_arranged : schema.arranged.allOf = schema.allOf.map arrangedSchema := by
  rw [arranged_eq]

@[simp] theorem oneOf_arranged : schema.arranged.oneOf = schema.oneOf.map arrangedSchema := by
  rw [arranged_eq]

@[simp] theorem anyOf_arranged : schema.arranged.anyOf = schema.anyOf.map arrangedSchema := by
  rw [arranged_eq]

@[simp] theorem path?_arrangedSchema (schema : Referable Schema) :
    (arrangedSchema schema).path? = schema.path? := by
  cases schema <;> rfl

theorem filterMap_path?_arranged (schemas : List (Referable Schema)) :
    (schemas.map arrangedSchema).filterMap Referable.path? = schemas.filterMap Referable.path? := by
  simp [List.filterMap_map]

@[simp] theorem parentReference_arranged :
    schema.arranged.parentReference = schema.parentReference := by
  simp [parentReference, List.findSome?_map, Function.comp_def]

end Schema

/-! ## Properties -/

namespace Dialect

variable {dialect : Dialect}

-- Structural on the schema, as its type is found.
mutual

/-- **A property is the same**, as nothing looks into the properties of a schema in use. -/
theorem property_arranged (name : String) (required : Bool) : ∀ schema : Referable Schema,
    dialect.property name required (arrangedSchema schema) = dialect.property name required schema
  | .reference _ => rfl
  | .inline schema => by
    rw [arrangedSchema, property, property, schemaType_arranged name schema,
      Schema.toKeywords_arranged]
termination_by structural schema => schema

theorem schemaType_arranged (name : String) : ∀ schema : Schema,
    dialect.schemaType name schema.arranged = dialect.schemaType name schema
  | ⟨keywords, properties, additional, items, allOf, oneOf, anyOf⟩ => by
    rw [schemaType_eq, schemaType_eq, Schema.toKeywords_arranged,
      Schema.isEmpty_properties_arranged, Schema.additionalProperties_arranged,
      Schema.items_arranged, Schema.parentReference_arranged, Option.isSome_map, Option.isSome_map]
    dsimp only
    cases shapeOf keywords (!properties.isEmpty) additional.isSome items.isSome with
    | array =>
      cases items with
      | none => rfl
      | some schema => exact congrArg arrayType (property_arranged _ _ schema)
    | object =>
      dsimp only
      split
      · rfl
      · rcases additional with _ | (flag | schema)
        · rfl
        · cases flag <;> rfl
        · exact congrArg mapType (property_arranged _ _ schema)
    | enumeration | scalar | undecided => rfl
termination_by structural schema => schema

end

theorem typeDeclaration_arranged (schema : Schema) :
    dialect.typeDeclaration schema.arranged = dialect.typeDeclaration schema := by
  rw [typeDeclaration, typeDeclaration, Schema.parentReference_arranged,
    Schema.toKeywords_arranged]

theorem memberName_arranged (member : Referable Schema) :
    dialect.memberName (arrangedSchema member) = dialect.memberName member := by
  cases member with
  | reference path => rfl
  | inline schema => exact typeDeclaration_arranged schema

end Dialect

/-! ## Declared properties -/

/-- A declaration with its schema arranged. -/
def Declaration.arranged (declaration : Declaration) : Declaration :=
  { declaration with schema := arrangedSchema declaration.schema }

theorem Schema.declarations_arranged (schema : Schema) : schema.arranged.declarations =
    sortOn (·.name) (schema.declarations.map Declaration.arranged) := by
  have hsame : (schema.properties.map fun entry => (entry.1, arrangedSchema entry.2)).map
      (fun entry => Declaration.mk entry.1 entry.2 (schema.required.contains entry.1)) =
      schema.declarations.map Declaration.arranged := by
    rw [Schema.declarations, List.map_map, List.map_map]
    rfl
  rw [← hsame, sortOn_map, Schema.declarations, Schema.arranged_eq]

/-- The first declaration of a name in a schema is the same, arranged. -/
theorem find?_declarations_arranged (schema : Schema) (name : String) :
    schema.arranged.declarations.find? (·.name == name) =
      (schema.declarations.find? (·.name == name)).map Declaration.arranged := by
  rw [Schema.declarations_arranged, find?_sortOn, List.find?_map]
  rfl

theorem filterMap_inline?_arranged (schemas : List (Referable Schema)) :
    (schemas.map arrangedSchema).filterMap Referable.inline? =
      (schemas.filterMap Referable.inline?).map Schema.arranged := by
  induction schemas with
  | nil => rfl
  | cons schema rest ih =>
    cases schema <;> simp [arrangedSchema, Referable.inline?, List.filterMap_cons, ih]

/-- The first declaration of a name in a body and its branches is the same, arranged. -/
theorem find?_declarations (body : Schema) (name : String) :
    (declarations body.arranged).find? (·.name == name) =
      ((declarations body).find? (·.name == name)).map Declaration.arranged := by
  have hbranches (schemas : List Schema) :
      ((schemas.map Schema.arranged).flatMap Schema.declarations).find? (·.name == name) =
        ((schemas.flatMap Schema.declarations).find? (·.name == name)).map
          Declaration.arranged := by
    induction schemas with
    | nil => rfl
    | cons schema rest ih =>
      rw [List.map_cons, List.flatMap_cons, List.flatMap_cons, List.find?_append, List.find?_append,
        find?_declarations_arranged, ih, Option.map_or]
  rw [declarations, declarations, List.find?_append, List.find?_append, find?_declarations_arranged,
    Schema.allOf_arranged, filterMap_inline?_arranged, hbranches, Option.map_or]

namespace Dialect

variable {dialect : Dialect}

theorem declared_arranged (declaration : Declaration) :
    dialect.declared declaration.arranged = dialect.declared declaration :=
  property_arranged _ _ declaration.schema

/-- The declarations that are kept are the same, arranged, in some order. -/
theorem firstDeclarations_arranged_perm (body : Schema) :
    (firstDeclarations [] (declarations body.arranged)).Perm
      ((firstDeclarations [] (declarations body)).map Declaration.arranged) := by
  have hleft := (nodup_name_firstDeclarations [] (declarations body.arranged)).of_map
  have hright : ((firstDeclarations [] (declarations body)).map Declaration.arranged).Nodup := by
    refine List.Nodup.of_map (·.name) ?_
    rw [List.map_map]
    exact nodup_name_firstDeclarations [] (declarations body)
  refine (List.perm_ext_iff_of_nodup hleft hright).2 fun declaration => ?_
  rw [mem_firstDeclarations_iff, List.mem_map, find?_declarations, Option.map_eq_some_iff]
  constructor
  · rintro ⟨_, first, hfirst, rfl⟩
    exact ⟨first, mem_firstDeclarations_iff.2 ⟨List.not_mem_nil, hfirst⟩, rfl⟩
  · rintro ⟨first, hmem, rfl⟩
    exact ⟨List.not_mem_nil, first, (mem_firstDeclarations_iff.1 hmem).2, rfl⟩

/-- **The properties of a model are the same.** -/
theorem vars_arranged (body : Schema) : dialect.vars body.arranged = dialect.vars body := by
  have hperm := (firstDeclarations_arranged_perm body).map dialect.declared
  rw [vars, sortOn_eq_of_perm hperm (dialect.nodup_base_declared body.arranged), vars, List.map_map]
  congr 2
  exact funext declared_arranged

/-! ## Models -/

theorem additional_arranged (body : Schema) :
    dialect.additional body.arranged = dialect.additional body := by
  rw [additional, additional, Schema.additionalProperties_arranged]
  rcases body.additionalProperties with _ | (flag | schema)
  · rfl
  · cases flag <;> rfl
  · exact congrArg some (property_arranged _ _ schema)

theorem modelItems_arranged (body : Schema) :
    dialect.modelItems body.arranged = dialect.modelItems body := by
  rw [modelItems, modelItems, Schema.items_arranged]
  cases body.items with
  | none => rfl
  | some schema => exact property_arranged _ _ schema

theorem modelKind_arranged (className : String) (hasMembers : Bool) (body : Schema) :
    dialect.modelKind className hasMembers body.arranged =
      dialect.modelKind className hasMembers body := by
  rw [modelKind, modelKind, Schema.toKeywords_arranged, Schema.items_arranged, Option.isSome_map,
    modelItems_arranged, typeDeclaration_arranged]

theorem branchModels_arranged (body : Schema) :
    dialect.branchModels body.arranged = dialect.branchModels body := by
  rw [branchModels, branchModels, Schema.allOf_arranged, Schema.filterMap_path?_arranged]

theorem map_memberName_arranged (members : List (Referable Schema)) :
    (members.map arrangedSchema).map dialect.memberName = members.map dialect.memberName := by
  rw [List.map_map]
  exact List.map_congr_left fun member _ => memberName_arranged member

theorem discriminator_arranged (body : Schema) :
    dialect.discriminator body.arranged = dialect.discriminator body := by
  have hinferred : dialect.inferredMapping body.arranged = dialect.inferredMapping body := by
    have hmembers : (if (body.oneOf.map arrangedSchema).isEmpty then body.anyOf.map arrangedSchema
          else body.oneOf.map arrangedSchema) =
        (if body.oneOf.isEmpty then body.anyOf else body.oneOf).map arrangedSchema := by
      rw [List.isEmpty_map]
      split <;> rfl
    simp only [inferredMapping, Schema.oneOf_arranged, Schema.anyOf_arranged, hmembers,
      Schema.filterMap_path?_arranged]
  rw [discriminator, discriminator, hinferred, Schema.toKeywords_arranged]

/-- **The model of a body is the same.** -/
theorem bodyModel_arranged (name : String) (body : Schema) :
    dialect.bodyModel name body.arranged = dialect.bodyModel name body := by
  simp only [bodyModel, vars_arranged, additional_arranged, modelKind_arranged,
    branchModels_arranged, discriminator_arranged, Schema.toKeywords_arranged,
    Schema.oneOf_arranged, Schema.anyOf_arranged, map_memberName_arranged]

end Dialect

end OpenApi
