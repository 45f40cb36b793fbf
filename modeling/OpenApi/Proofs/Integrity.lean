import OpenApi.Proofs.Groups
import OpenApi.Proofs.ModelNames
import OpenApi.Proofs.Validity

/-!
# References between models

In what is resolved from a valid document no reference dangles: every model that a model or an
operation takes from a reference is there. A valid document has a component schema for every path,
and the name at the end of a path is the name of that component, unless the name itself has a slash.

## Main definitions

* `Api.Declares`: there is a model with a class name.
* `Referable.source?`: the path that the name of a union's member comes from.
* `NamesDeclared`: every model that is taken from a reference is there.

## Main statements

* `declares_referenceModel`: the model of a path that names a component schema is there.
* `namesDeclared_resolve`: nothing dangles in what is resolved from a valid document.
-/
namespace OpenApi

open Resolved (Api DiscriminatorMapping Model Property)

/-! ## What is to hold -/

/-- There is a model with this class name. -/
def Resolved.Api.Declares (api : Api) (name : String) : Prop :=
  ∃ model ∈ api.models, model.className = name

/-- The path that the name of a member of a union comes from: its own, or that of the first
referenced branch of an inline schema. -/
def Referable.source? : Referable Schema → Option String
  | .reference path => some path
  | .inline schema => schema.parentReference

/-- The path that a member's name comes from is in the member. -/
theorem mem_schemaPaths_of_source? {member : Referable Schema} {path : String}
    (h : path ∈ member.source?) : path ∈ schemaPaths member := by
  cases member with
  | reference other => exact List.mem_singleton.2 (Option.some.inj h).symm
  | inline schema => exact Schema.mem_paths_of_parentReference h

/-- The schema that a component comes to, if there is one. -/
def Document.bodyOf (document : Document) (name : String) : Option Schema :=
  (document.schemas.get? name).bind fun schema => (document.schema schema).toOption

/-- A member of a union that comes from a reference is a model. -/
def MemberDeclared (api : Api) (member : Referable Schema) (name : String) : Prop :=
  member.source?.isSome → api.Declares name

/-- What the entries of a discriminator select are models: all that the members give, and of those
that the document lists the ones that lead into it. -/
def MappingDeclared (api : Api) (listed : List (String × String)) : DiscriminatorMapping → Prop
  | .absent => True
  | .inferred entries => ∀ entry ∈ entries, api.Declares entry.model
  | .explicit entries => List.Forall₂ (fun source entry =>
      entry.value = source.1 ∧ (isLocalPath source.2 → api.Declares entry.model)) listed entries

/-- Every model that a model takes from a reference is there; `body?` is the schema it is made
of. -/
structure ModelDeclared (api : Api) (body? : Option Schema) (model : Model) : Prop where
  /-- At any depth of a property: one that it lists, one that it does not list, or its items. -/
  property : ∀ property ∈ model.properties, ∀ name ∈ property.model?, api.Declares name
  parent : ∀ name ∈ model.parent, api.Declares name
  allOf : ∀ name ∈ model.allOf, api.Declares name
  oneOf : List.Forall₂ (MemberDeclared api) (body?.elim [] (·.oneOf)) model.oneOf
  anyOf : List.Forall₂ (MemberDeclared api) (body?.elim [] (·.anyOf)) model.anyOf
  discriminator : ∀ d ∈ model.discriminator, ∃ source ∈ body?.bind (·.discriminator),
    MappingDeclared api source.mapping.entries d.mapping

/-- Every model that a resolved document takes from a reference is there. -/
structure NamesDeclared (document : Document) (api : Api) : Prop where
  model : ∀ model ∈ api.models, ModelDeclared api (document.bodyOf model.name) model
  /-- At any depth of a property: a parameter, the body, a response, a header, or the result. -/
  operation : ∀ group ∈ api.groups, ∀ operation ∈ group.operations,
    ∀ property ∈ operation.properties, ∀ name ∈ property.model?, api.Declares name

/-! ## The models of paths -/

section Paths

variable {document : Document} {options : ResolveOptions}

theorem Dialect.name_model (dialect : Dialect) (document : Document) (name : String)
    (schema : Referable Schema) : (dialect.model document name schema).name = name := by
  rw [Dialect.model]
  cases document.schema schema <;> rfl

theorem Dialect.className_model (dialect : Dialect) (document : Document) (name : String)
    (schema : Referable Schema) :
    (dialect.model document name schema).className = dialect.naming.modelName name := by
  rw [Dialect.model]
  cases document.schema schema <;> rfl

/-- **The model of a path that names a component schema is there.** -/
theorem declares_referenceModel (hslash : ∀ name ∈ document.schemas.names, '/' ∉ name.toList)
    {path : String} (h : document.hasSchema path = true) :
    (document.resolved options).Declares (options.dialect.referenceModel path) := by
  obtain ⟨name, schema, rfl, hschema⟩ := Document.hasSchema_iff.1 h
  have hname : '/' ∉ name.toList := hslash name (Dict.mem_names_iff.2 ⟨schema, hschema⟩)
  refine ⟨options.dialect.model document name schema, ?_, ?_⟩
  · exact List.mem_map.2 ⟨(name, schema), Dict.mem_sorted_iff.2 hschema, rfl⟩
  · rw [Dialect.className_model, Dialect.referenceModel, referenceTail_componentPath hname]

end Paths

/-! ## Models and operations -/

namespace Dialect

variable {dialect : Dialect} {api : Api} {body : Schema}

/-- What is taken from paths whose models are there is there. -/
theorem TakenFrom.declares {paths : List String} {model? : Option String}
    (h : dialect.TakenFrom paths model?)
    (hpaths : ∀ path ∈ paths, api.Declares (dialect.referenceModel path)) :
    ∀ name ∈ model?, api.Declares name := by
  intro name hname
  obtain ⟨path, hpath, rfl⟩ := h name hname
  exact hpaths path hpath

theorem modelDeclared_untypedModel (api : Api) (name : String) :
    ModelDeclared api none (dialect.untypedModel name) where
  property := fun _ hmem => nomatch hmem
  parent := fun _ hmem => nomatch hmem
  allOf := fun _ hmem => nomatch hmem
  oneOf := .nil
  anyOf := .nil
  discriminator := fun _ hmem => nomatch hmem

theorem forall₂_memberDeclared {members : List (Referable Schema)}
    (h : ∀ member ∈ members, ∀ path ∈ member.source?,
      api.Declares (dialect.referenceModel path)) :
    List.Forall₂ (MemberDeclared api) members (members.map dialect.memberName) := by
  rw [List.forall₂_map_right_iff, List.forall₂_same]
  intro member hmem hsource
  obtain ⟨path, hpath⟩ := Option.isSome_iff_exists.1 hsource
  have hdeclared : api.Declares (dialect.referenceModel path) := h member hmem path hpath
  cases member with
  | reference other =>
    obtain rfl := Option.some.inj hpath
    exact hdeclared
  | inline schema =>
    rw [memberName, typeDeclaration]
    rw [Referable.source?] at hpath
    rwa [hpath]

section Body

-- The models of all paths in the body are there.
variable (h : ∀ path ∈ body.paths, api.Declares (dialect.referenceModel path))

include h

theorem branchModels_declared :
    ∀ name ∈ dialect.branchModels body, api.Declares name := by
  intro name hname
  obtain ⟨path, hpath, rfl⟩ := List.mem_map.1 hname
  obtain ⟨branch, hbranch, heq⟩ := List.mem_filterMap.1 hpath
  exact h path (Schema.mem_paths_of_branch (Or.inl hbranch) (mem_schemaPaths_of_path? heq))

/-- What the members of a union select is there. -/
theorem mappingDeclared_inferredMapping (listed : List (String × String)) :
    MappingDeclared api listed (dialect.inferredMapping body) := by
  have hmembers : ∀ member ∈ if body.oneOf.isEmpty then body.anyOf else body.oneOf,
      member ∈ body.oneOf ∨ member ∈ body.anyOf := by
    intro member hmem
    split at hmem
    · exact Or.inr hmem
    · exact Or.inl hmem
  simp only [inferredMapping]
  generalize (if body.oneOf.isEmpty then body.anyOf else body.oneOf) = members at hmembers ⊢
  split
  · trivial
  · intro entry hentry
    obtain ⟨path, hpath, rfl⟩ := List.mem_map.1 hentry
    obtain ⟨member, hmember, heq⟩ := List.mem_filterMap.1 hpath
    exact h path (Schema.mem_paths_of_branch (Or.inr (hmembers member hmember))
      (mem_schemaPaths_of_path? heq))

/-- What a discriminator lists is there, as far as it leads into the document. -/
theorem mappingDeclared_explicit {d : Discriminator} (hd : body.discriminator = some d) :
    MappingDeclared api d.mapping.entries (.explicit (d.mapping.entries.map fun entry =>
      { value := entry.1, model := dialect.referenceModel entry.2 })) := by
  rw [MappingDeclared, List.forall₂_map_right_iff, List.forall₂_same]
  intro entry hentry
  refine ⟨rfl, fun hlocal => h entry.2 (Schema.mem_paths_of_discriminator hd ?_)⟩
  exact List.mem_filter.2 ⟨List.mem_map_of_mem hentry, hlocal⟩

theorem discriminator_declared :
    ∀ d ∈ dialect.discriminator body, ∃ source ∈ body.discriminator,
      MappingDeclared api source.mapping.entries d.mapping := by
  intro d hd
  obtain ⟨source, hsource, rfl⟩ := Option.map_eq_some_iff.1 hd
  refine ⟨source, hsource, ?_⟩
  dsimp only
  split
  · exact mappingDeclared_inferredMapping h _
  · exact mappingDeclared_explicit h hsource

/-- **The model of a body takes from references only models that are there**, if the models of all
paths in the body are. -/
theorem modelDeclared_bodyModel (name : String) :
    ModelDeclared api (some body) (dialect.bodyModel name body) where
  property := fun _ hmem => (usedFrom_bodyModel hmem).takenFrom.declares h
  parent := fun name hname => branchModels_declared h name (List.mem_of_mem_head? hname)
  allOf := branchModels_declared h
  oneOf := forall₂_memberDeclared fun _ hmem path hpath =>
    h path (Schema.mem_paths_of_branch (Or.inr (Or.inl hmem)) (mem_schemaPaths_of_source? hpath))
  anyOf := forall₂_memberDeclared fun _ hmem path hpath =>
    h path (Schema.mem_paths_of_branch (Or.inr (Or.inr hmem)) (mem_schemaPaths_of_source? hpath))
  discriminator := discriminator_declared h

end Body

end Dialect

/-! ## Documents -/

variable {document : Document} {options : ResolveOptions}

theorem modelDeclared_of_mem (hslash : ∀ name ∈ document.schemas.names, '/' ∉ name.toList)
    (hvalid : document.Valid) {model : Model} (hmem : model ∈ (document.resolved options).models) :
    ModelDeclared (document.resolved options) (document.bodyOf model.name) model := by
  obtain ⟨⟨name, schema⟩, hentry, rfl⟩ := List.mem_map.1 hmem
  have hschema : document.schemas.get? name = some schema := Dict.mem_sorted_iff.1 hentry
  have hbodyOf : document.bodyOf name = (document.schema schema).toOption := by
    rw [Document.bodyOf, hschema, Option.bind_some]
  rw [Dialect.name_model, hbodyOf]
  rw [Dialect.model]
  cases hbody : document.schema schema with
  | error _ => exact Dialect.modelDeclared_untypedModel _ name
  | ok body =>
    refine Dialect.modelDeclared_bodyModel (fun path hpath => ?_) name
    exact declares_referenceModel hslash (hvalid.hasSchema_of_mem_paths hschema hbody hpath)

theorem operation_declared (hslash : ∀ name ∈ document.schemas.names, '/' ∉ name.toList)
    (hvalid : document.Valid) {site : OperationSite} (hsite : site ∈ document.sites)
    {property : Property} (hmem : property ∈
      (options.dialect.operation document options.aliases site).properties) :
    ∀ name ∈ property.model?, (document.resolved options).Declares name :=
  (Dialect.usedFrom_operation hmem).takenFrom.declares fun _ hpath =>
    declares_referenceModel hslash (hvalid.hasSchema_of_mem_usedPaths hsite hpath)

/-- **Nothing dangles in what is resolved from a valid document** whose component schemas have names
without a slash: it is resolved, and every model that it takes from a reference is there. -/
theorem namesDeclared_resolve (hslash : ∀ name ∈ document.schemas.names, '/' ∉ name.toList)
    (hvalid : document.Valid) (options : ResolveOptions) :
    ∃ api, document.resolve options = .ok api ∧ NamesDeclared document api := by
  refine ⟨document.resolved options, hvalid.resolve_eq options, ?_, ?_⟩
  · exact fun model hmem => modelDeclared_of_mem hslash hvalid hmem
  · intro group hgroup operation hoperation property hmem
    obtain ⟨site, hsite, heq, _⟩ := exists_site_of_mem_groups hgroup hoperation
    rw [heq] at hmem
    exact operation_declared hslash hvalid hsite hmem

/-- An alias, a union with a discriminator and a list of models in a response. -/
def kennelDocument : Document where
  openapi := "3.0.3"
  info := { title := "kennel", version := "1" }
  components := some
    { schemas := Dict.ofEntries
        [("Pet", .inline
            { oneOf := [.reference "#/components/schemas/dog"]
              discriminator := some { propertyName := "kind" } }),
          ("dog", .inline { properties := [("friend", .reference "#/components/schemas/Hound")] }),
          ("Hound", .reference "#/components/schemas/dog")] }
  paths := Dict.ofEntries
    [("/pets",
      { get := some
          { responses := Dict.ofEntries
              [("200", .inline
                { content := Dict.ofEntries
                    [("application/json",
                      { schema := some (.inline
                          { type := some (.single .array)
                            items := some (.reference "#/components/schemas/Pet") }) })] })] } })]

theorem namesDeclared_resolve_kennelDocument :
    (∀ name ∈ kennelDocument.schemas.names, '/' ∉ name.toList)
      ∧ kennelDocument.Valid
      ∧ (∃ api, kennelDocument.resolve {} = .ok api ∧ NamesDeclared kennelDocument api)
      ∧ (kennelDocument.resolved {}).models.map (fun model => (model.className, model.oneOf)) =
        [("Hound", []), ("Pet", ["Dog"]), ("Dog", [])] := by
  have hslash : ∀ name ∈ kennelDocument.schemas.names, '/' ∉ name.toList := by decide
  have hvalid : kennelDocument.Valid := by decide +kernel
  exact ⟨hslash, hvalid, namesDeclared_resolve hslash hvalid {}, by decide +kernel⟩

end OpenApi
