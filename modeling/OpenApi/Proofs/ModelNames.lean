import OpenApi.Proofs.Declarations
import OpenApi.Proofs.Sites
import OpenApi.Resolution.Document

/-!
# Where model names come from

Every model that a property refers to is the model of a reference which the schema of the property
holds somewhere. The properties of a model are schemas of its body in use, and those of an operation
are schemas in use that validation looks at, so the same is true of them.

## Main definitions

* `Dialect.TakenFrom`: the model of a property is that of a reference by some path.
* `Dialect.UsedFrom`: a property is a schema in use whose paths are among some paths.
* `Model.properties`, `Operation.properties`: the properties that they hold.

## Main statements

* `takenFrom_property`: a property takes its model from the paths of its schema.
* `usedFrom_bodyModel`: the properties of a model are schemas in use, with the paths of its body.
* `usedFrom_operation`: those of an operation are schemas in use, with the paths that it uses.
-/
namespace OpenApi

open Resolved (Model ModelKind Property PropertyType)

/-! ## Places of paths -/

theorem mem_schemaPaths_of_path? {member : Referable Schema} {path : String}
    (h : member.path? = some path) : path ∈ schemaPaths member := by
  cases member with
  | reference other => exact List.mem_singleton.2 (Option.some.inj h).symm
  | inline schema => nomatch h

namespace Schema

variable {schema : Schema} {path : String}

theorem mem_paths_of_property {entry : String × Referable Schema}
    (hentry : entry ∈ schema.properties) (h : path ∈ schemaPaths entry.2) : path ∈ schema.paths :=
  mem_paths_iff.2 (Or.inl ⟨entry, hentry, h⟩)

theorem mem_paths_of_items {items : Referable Schema} (hitems : schema.items = some items)
    (h : path ∈ schemaPaths items) : path ∈ schema.paths :=
  mem_paths_iff.2 (Or.inr (Or.inl ⟨items, hitems, h⟩))

theorem mem_paths_of_values {values : Referable Schema}
    (hvalues : schema.additionalProperties = some (.values values))
    (h : path ∈ schemaPaths values) : path ∈ schema.paths :=
  mem_paths_iff.2 (Or.inr (Or.inr (Or.inl ⟨values, hvalues, h⟩)))

theorem mem_paths_of_branch {branch : Referable Schema}
    (hbranch : branch ∈ schema.allOf ∨ branch ∈ schema.oneOf ∨ branch ∈ schema.anyOf)
    (h : path ∈ schemaPaths branch) : path ∈ schema.paths := by
  have hmem : branch ∈ schema.allOf ++ schema.oneOf ++ schema.anyOf := by simpa using hbranch
  exact mem_paths_iff.2 (Or.inr (Or.inr (Or.inr (Or.inl ⟨branch, hmem, h⟩))))

theorem mem_paths_of_discriminator {d : Discriminator} (hd : schema.discriminator = some d)
    (h : path ∈ d.paths) : path ∈ schema.paths :=
  mem_paths_iff.2 (Or.inr (Or.inr (Or.inr (Or.inr ⟨d, hd, h⟩))))

/-- A path that the first referenced branch has. -/
theorem mem_paths_of_parentReference (h : schema.parentReference = some path) :
    path ∈ schema.paths := by
  obtain ⟨branch, hbranch, hpath⟩ := List.exists_of_findSome?_eq_some h
  exact mem_paths_of_branch (Or.inl hbranch) (mem_schemaPaths_of_path? hpath)

end Schema

/-! ## Properties -/

/-- The model at the bottom of a type. -/
def Resolved.PropertyType.model? (type : PropertyType Property) : Option String :=
  match type.kind with
  | .model name => some name
  | .array items => items.model?
  | .map values => values.model?
  | _ => none

theorem Resolved.Property.model?_eq (property : Property) :
    property.model? = property.type.model? := by
  obtain ⟨names, required, traits, dataType, baseType, kind, format, isPrimitive⟩ := property
  cases kind <;> simp [Property.model?, PropertyType.model?]

namespace Dialect

variable {dialect : Dialect}

/-- A model, if there is one, is that of a reference by one of the paths. -/
def TakenFrom (dialect : Dialect) (paths : List String) (model? : Option String) : Prop :=
  ∀ model ∈ model?, ∃ path ∈ paths, model = dialect.referenceModel path

namespace TakenFrom

theorem none (paths : List String) : dialect.TakenFrom paths none := fun _ hmem => nomatch hmem

theorem mono {paths others : List String} {model? : Option String}
    (h : dialect.TakenFrom paths model?) (hsub : ∀ path ∈ paths, path ∈ others) :
    dialect.TakenFrom others model? := by
  intro model hmodel
  obtain ⟨path, hpath, heq⟩ := h model hmodel
  exact ⟨path, hsub path hpath, heq⟩

end TakenFrom

theorem model?_anyProperty (name : String) (required : Bool) :
    (dialect.anyProperty name required).model? = none := by
  rw [Resolved.Property.model?_eq]
  rfl

theorem model?_scalarType (scalar : Resolved.ScalarKind) (format : Option String) :
    (dialect.scalarType scalar format).model? = none := by
  cases scalar <;> rfl

-- Structural on the schema: an array looks into its items, an open record into its values, and
-- nothing else looks further in.
mutual

/-- **A property takes its model from the paths of its schema**, at any depth. -/
theorem takenFrom_property (name : String) (required : Bool) : ∀ schema : Referable Schema,
    dialect.TakenFrom (schemaPaths schema) (dialect.property name required schema).model?
  | .reference path => by
    rw [Resolved.Property.model?_eq]
    intro model hmodel
    exact ⟨path, List.mem_singleton.2 rfl, (Option.some.inj hmodel).symm⟩
  | .inline schema => by
    rw [Resolved.Property.model?_eq]
    exact takenFrom_schemaType name schema
termination_by structural schema => schema

theorem takenFrom_schemaType (name : String) : ∀ schema : Schema,
    dialect.TakenFrom schema.paths (dialect.schemaType name schema).model?
  | ⟨keywords, properties, additional, items, allOf, oneOf, anyOf⟩ => by
    rw [schemaType_eq]
    dsimp only
    cases shapeOf keywords (!properties.isEmpty) additional.isSome items.isSome with
    | enumeration => exact .none _
    | array =>
      cases items with
      | none => simpa [arrayType, PropertyType.model?, model?_anyProperty] using .none _
      | some schema =>
        exact (takenFrom_property (itemName name) false schema).mono fun path hpath =>
          Schema.mem_paths_of_items rfl hpath
    | object =>
      dsimp only
      split
      · exact .none _
      · rcases additional with _ | (flag | schema)
        · exact .none _
        · cases flag with
          | false => exact .none _
          | true => simpa [mapType, PropertyType.model?, model?_anyProperty] using .none _
        · exact (takenFrom_property valueName false schema).mono fun path hpath =>
            Schema.mem_paths_of_values rfl hpath
    | scalar kind =>
      rw [model?_scalarType]
      exact .none _
    | undecided =>
      dsimp only
      split
      · rename_i path heq
        intro model hmodel
        exact ⟨path, Schema.mem_paths_of_parentReference heq, (Option.some.inj hmodel).symm⟩
      · exact .none _
termination_by structural schema => schema

end

theorem takenFrom_optionalProperty (name : String) (required : Bool)
    (schema : Option (Referable Schema)) :
    dialect.TakenFrom (optionalPaths schema)
      (dialect.optionalProperty name required schema).model? := by
  cases schema with
  | none =>
    rw [optionalProperty, model?_anyProperty]
    exact .none _
  | some schema => exact takenFrom_property name required schema

/-- A property is a schema in use whose paths are among these, or any type without a schema. -/
def UsedFrom (dialect : Dialect) (paths : List String) (property : Property) : Prop :=
  ∃ name required schema, property = dialect.optionalProperty name required schema
    ∧ ∀ path ∈ optionalPaths schema, path ∈ paths

namespace UsedFrom

variable {paths others : List String} {property : Property}

theorem ofSchema (name : String) (required : Bool) {schema : Referable Schema}
    (h : ∀ path ∈ schemaPaths schema, path ∈ paths) :
    dialect.UsedFrom paths (dialect.property name required schema) :=
  ⟨name, required, some schema, rfl, h⟩

theorem ofNone (name : String) (required : Bool) (paths : List String) :
    dialect.UsedFrom paths (dialect.anyProperty name required) :=
  ⟨name, required, none, rfl, fun _ hmem => nomatch hmem⟩

theorem mono (h : dialect.UsedFrom paths property) (hsub : ∀ path ∈ paths, path ∈ others) :
    dialect.UsedFrom others property := by
  obtain ⟨name, required, schema, rfl, hpaths⟩ := h
  exact ⟨name, required, schema, rfl, fun path hpath => hsub path (hpaths path hpath)⟩

/-- A schema in use takes its model from its paths. -/
theorem takenFrom (h : dialect.UsedFrom paths property) :
    dialect.TakenFrom paths property.model? := by
  obtain ⟨name, required, schema, rfl, hpaths⟩ := h
  exact (takenFrom_optionalProperty name required schema).mono hpaths

end UsedFrom

end Dialect

/-! ## Models -/

/-- The items of a list model. -/
def Resolved.ModelKind.items? : ModelKind → Option Property
  | .array items => some items
  | _ => none

/-- The properties that a model holds: those it lists, those it does not list, and its items. -/
def Resolved.Model.properties (model : Model) : List Property :=
  model.vars ++ model.additionalProperties.toList ++ model.kind.items?.toList

namespace Dialect

variable {dialect : Dialect} {name : String} {body : Schema}

/-- The schema of a declared property is in the body, or in an inline branch of it. -/
theorem mem_paths_of_declaration {declaration : Declaration} {path : String}
    (hmem : declaration ∈ declarations body) (h : path ∈ schemaPaths declaration.schema) :
    path ∈ body.paths := by
  rcases List.mem_append.1 hmem with hown | hbranch
  · obtain ⟨entry, hentry, rfl⟩ := List.mem_map.1 hown
    exact Schema.mem_paths_of_property hentry h
  · obtain ⟨branch, hinline, hdeclared⟩ := List.mem_flatMap.1 hbranch
    obtain ⟨member, hmember, heq⟩ := List.mem_filterMap.1 hinline
    obtain ⟨entry, hentry, rfl⟩ := List.mem_map.1 hdeclared
    cases member with
    | reference _ => nomatch heq
    | inline schema =>
      obtain rfl := Option.some.inj heq
      have hpath : path ∈ schemaPaths (.inline schema) := Schema.mem_paths_of_property hentry h
      exact Schema.mem_paths_of_branch (Or.inl hmember) hpath

theorem usedFrom_vars {property : Property} (hmem : property ∈ dialect.vars body) :
    dialect.UsedFrom body.paths property := by
  obtain ⟨declaration, hdeclaration, rfl⟩ := List.mem_map.1 (mem_sortOn.1 hmem)
  have hdeclared : declaration ∈ declarations body :=
    List.mem_of_find?_eq_some (mem_firstDeclarations_iff.1 hdeclaration).2
  exact .ofSchema _ _ fun path hpath => mem_paths_of_declaration hdeclared hpath

theorem usedFrom_additional {property : Property} (h : dialect.additional body = some property) :
    dialect.UsedFrom body.paths property := by
  unfold additional at h
  split at h
  · rename_i schema hschema
    obtain rfl := Option.some.inj h
    exact .ofSchema _ _ fun path hpath => Schema.mem_paths_of_values hschema hpath
  · obtain rfl := Option.some.inj h
    exact .ofNone _ _ _
  · nomatch h
  · nomatch h

theorem usedFrom_modelItems : dialect.UsedFrom body.paths (dialect.modelItems body) := by
  unfold modelItems
  split
  · rename_i schema hschema
    exact .ofSchema _ _ fun path hpath => Schema.mem_paths_of_items hschema hpath
  · exact .ofNone _ _ _

theorem items?_modelKind {className : String} {hasMembers : Bool} {items : Property}
    (h : (dialect.modelKind className hasMembers body).1.items? = some items) :
    items = dialect.modelItems body := by
  revert h
  refine dialect.modelKind_cases className hasMembers body
    (P := fun kind => kind.items? = some items → items = dialect.modelItems body)
    nofun ?array nofun (fun _ => nofun) nofun
  case array => exact fun h => (Option.some.inj h).symm

/-- **The properties of a model are schemas of its body in use.** -/
theorem usedFrom_bodyModel {property : Property}
    (hmem : property ∈ (dialect.bodyModel name body).properties) :
    dialect.UsedFrom body.paths property := by
  rcases List.mem_append.1 hmem with hmem | hitems
  · rcases List.mem_append.1 hmem with hvars | hadditional
    · exact usedFrom_vars hvars
    · exact usedFrom_additional (Option.mem_toList.1 hadditional)
  · obtain rfl := items?_modelKind (Option.mem_toList.1 hitems)
    exact usedFrom_modelItems

end Dialect

/-! ## Operations -/

/-- The parameters in all buckets. -/
def Resolved.Buckets.parameters (buckets : Resolved.Buckets) : List Resolved.Parameter :=
  buckets.path ++ buckets.query ++ buckets.header ++ buckets.cookie ++ buckets.body.toList
    ++ buckets.required ++ buckets.optional

/-- The properties that a response holds: its own and those of its headers. -/
def Resolved.Response.properties (response : Resolved.Response) : List Property :=
  response.schema.toList ++ response.headers.map (·.schema)

/-- The properties that an operation holds: those of its parameters, with its body, those of its
responses, and its result. -/
def Resolved.Operation.properties (operation : Resolved.Operation) : List Property :=
  (operation.parameters ++ operation.buckets.parameters).map (·.schema)
    ++ operation.responses.flatMap (·.properties) ++ operation.result.toList

theorem mem_of_mem_distinctParameters {parameters : List Resolved.Parameter}
    {parameter : Resolved.Parameter} (h : parameter ∈ distinctParameters parameters) :
    parameter ∈ parameters := by
  obtain ⟨entry, hentry, rfl⟩ := List.mem_map.1 h
  obtain ⟨original, hmem, rfl⟩ := List.mem_map.1 (mem_of_mem_settle hentry)
  exact hmem

theorem mem_of_mem_buckets {parameters : List Resolved.Parameter}
    {parameter : Resolved.Parameter} (h : parameter ∈ (Resolved.Buckets.of parameters).parameters) :
    parameter ∈ parameters := by
  simp only [Resolved.Buckets.of, Resolved.Buckets.parameters, List.mem_append, List.mem_filter,
    Option.mem_toList] at h
  rcases h with (((((h | h) | h) | h) | h) | h) | h
  case inl.inl.inr => exact List.mem_of_find?_eq_some h
  all_goals exact h.1

namespace Dialect

variable {dialect : Dialect} {document : Document} {property : Property}

/-- The first schema of a content is among its schemas. -/
theorem mem_contentPaths_of_firstSchema? {content : Dict MediaType} {contentType path : String}
    {schema : Referable Schema} (h : firstSchema? content = some (contentType, schema))
    (hpath : path ∈ schemaPaths schema) : path ∈ contentPaths content := by
  obtain ⟨entry, hentry, heq⟩ := List.exists_of_findSome?_eq_some h
  obtain ⟨found, hfound, heq⟩ := Option.map_eq_some_iff.1 heq
  obtain rfl := (Prod.mk.inj heq).2
  refine List.mem_flatMap.2 ⟨entry.2, List.mem_map_of_mem hentry, ?_⟩
  rw [optionalPaths, hfound]
  exact hpath

theorem usedFrom_parameter (parameter : Parameter) :
    dialect.UsedFrom (optionalPaths parameter.schema) (dialect.parameter parameter).schema :=
  ⟨_, _, parameter.schema, rfl, fun _ hpath => hpath⟩

theorem usedFrom_bodyParameter {body : RequestBody} {parameter : Resolved.Parameter}
    (h : dialect.bodyParameter body = some parameter) :
    dialect.UsedFrom (contentPaths body.content) parameter.schema := by
  obtain ⟨⟨contentType, schema⟩, hfirst, rfl⟩ := Option.map_eq_some_iff.1 h
  exact .ofSchema _ _ fun path hpath => mem_contentPaths_of_firstSchema? hfirst hpath

/-- A parameter of an operation is one that the document has for it, or its body. -/
theorem mem_declaredParameters_iff {site : OperationSite} {parameter : Resolved.Parameter} :
    parameter ∈ dialect.declaredParameters document site ↔
      (∃ source ∈ successes (site.parameters document), dialect.parameter source = parameter)
        ∨ ∃ body ∈ successes (site.requestBody document).toList,
          dialect.bodyParameter body = some parameter := by
  rw [declaredParameters, List.mem_append, List.mem_map, List.mem_filterMap]

/-- The parameters of an operation are schemas of its parameters and its body in use. -/
theorem usedFrom_declaredParameters {site : OperationSite} {parameter : Resolved.Parameter}
    (h : parameter ∈ dialect.declaredParameters document site) :
    dialect.UsedFrom (site.usedPaths document) parameter.schema := by
  rcases mem_declaredParameters_iff.1 h with ⟨source, hsource, rfl⟩ | ⟨body, hbody, heq⟩
  · refine (usedFrom_parameter source).mono fun path hpath => ?_
    refine List.mem_append_left _ (List.mem_append_left _ ?_)
    exact List.mem_flatMap.2 ⟨source, hsource, hpath⟩
  · refine (usedFrom_bodyParameter heq).mono fun path hpath => ?_
    refine List.mem_append_left _ (List.mem_append_right _ ?_)
    exact List.mem_flatMap.2 ⟨body, hbody, hpath⟩

/-- The properties of a response are schemas of its content and its headers in use. -/
theorem usedFrom_response {code : String} {response : Response}
    (hmem : property ∈ (dialect.response document code response).properties) :
    dialect.UsedFrom
      (contentPaths response.content
        ++ (successes (response.headers.values.map document.header)).flatMap
          fun header => optionalPaths header.schema) property := by
  rcases List.mem_append.1 hmem with hschema | hheader
  · obtain ⟨⟨contentType, schema⟩, hfirst, rfl⟩ :=
      Option.map_eq_some_iff.1 (Option.mem_toList.1 hschema)
    exact .ofSchema _ _ fun path hpath =>
      List.mem_append_left _ (mem_contentPaths_of_firstSchema? hfirst hpath)
  · obtain ⟨resolved, hresolved, rfl⟩ := List.mem_map.1 hheader
    obtain ⟨⟨name, source⟩, hsource, heq⟩ := List.mem_filterMap.1 hresolved
    obtain ⟨header, hfound, rfl⟩ := Option.map_eq_some_iff.1 heq
    refine ⟨_, _, header.schema, rfl, fun path hpath => ?_⟩
    refine List.mem_append_right _ (List.mem_flatMap.2 ⟨header, mem_successes_iff.2 ?_, hpath⟩)
    refine List.mem_map.2 ⟨source, ?_, toOption_eq_some_iff.1 hfound⟩
    exact List.mem_map.2 ⟨(name, source), mem_sortOn.1 hsource, rfl⟩

theorem usedFrom_responses {site : OperationSite} {response : Resolved.Response}
    (h : response ∈ dialect.responses document site.operation)
    (hmem : property ∈ response.properties) :
    dialect.UsedFrom (site.usedPaths document) property := by
  obtain ⟨⟨code, source⟩, hsource, heq⟩ := List.mem_filterMap.1 h
  obtain ⟨found, hfound, rfl⟩ := Option.map_eq_some_iff.1 heq
  refine (usedFrom_response hmem).mono fun path hpath => ?_
  refine List.mem_append_right _ (List.mem_flatMap.2 ⟨source, ?_, ?_⟩)
  · exact List.mem_map.2 ⟨(code, source), mem_sortOn.1 hsource, rfl⟩
  · rw [OperationSite.responsePaths, toOption_eq_some_iff.1 hfound]
    exact hpath

/-- The result of an operation is the property of one of its responses. -/
theorem exists_response_of_resultOf {responses : List Resolved.Response}
    (h : resultOf responses = some property) :
    ∃ response ∈ responses, property ∈ response.properties := by
  obtain ⟨response, hmem, heq⟩ := List.exists_of_findSome?_eq_some h
  split at heq
  · exact ⟨response, hmem, List.mem_append_left _ (Option.mem_toList.2 heq)⟩
  · nomatch heq

/-- The parameters that an operation keeps, in whatever bucket, are among the declared ones. -/
theorem mem_declaredParameters_of_mem {aliases : Dict String} {site : OperationSite}
    {operation : Resolved.Operation} (h : operation = dialect.operation document aliases site)
    {parameter : Resolved.Parameter}
    (hmem : parameter ∈ operation.parameters ++ operation.buckets.parameters) :
    parameter ∈ dialect.declaredParameters document site := by
  subst h
  have hdistinct : parameter ∈ distinctParameters (dialect.declaredParameters document site) :=
    (List.mem_append.1 hmem).elim id mem_of_mem_buckets
  exact mem_of_mem_distinctParameters hdistinct

/-- **The properties of an operation are schemas in use**, with the paths that the
operation uses. -/
theorem usedFrom_operation {aliases : Dict String} {site : OperationSite}
    (hmem : property ∈ (dialect.operation document aliases site).properties) :
    dialect.UsedFrom (site.usedPaths document) property := by
  rcases List.mem_append.1 hmem with hmem | hresult
  · rcases List.mem_append.1 hmem with hparameter | hresponse
    · obtain ⟨parameter, hkept, rfl⟩ := List.mem_map.1 hparameter
      exact usedFrom_declaredParameters (mem_declaredParameters_of_mem rfl hkept)
    · obtain ⟨response, hresponse, hmem⟩ := List.mem_flatMap.1 hresponse
      exact usedFrom_responses hresponse hmem
  · obtain ⟨response, hresponse, hmem⟩ :=
      exists_response_of_resultOf (Option.mem_toList.1 hresult)
    exact usedFrom_responses hresponse hmem

end Dialect

end OpenApi
