import Mathlib.Data.List.Sort
import OpenApi.Proofs.AliasChains
import OpenApi.Proofs.Integrity
import OpenApi.Proofs.ReferenceChains
import OpenApi.Proofs.SchemaUses

/-!
# Models of aliases

A component schema that refers to another one is an alias, and its model is made of the body at the
end of the chain of aliases. So it is the model of that body's own component under another class
name, which shows in the name of an enumeration, in the type of an object, and in what need not be
imported. It is made of the components on the chain alone: nothing else in a document is looked at,
and no other schema is expanded.

## Main definitions

* `SameOnChain`: two sections agree on the components of a chain.
* `Dialect.modelNamed?`: the model of a component schema, among those of a document.
* `Model.Copies`: a model is another one under its own class name.
* `Dialect.needed`: the models that a model needs, its own among them.

## Main statements

* `follow_eq_ok_iff_onChain`: a chain reaches the object that one of its components holds.
* `Dialect.modelNamed?_eq_of_sameOnChain`: a model depends on the components of its chain only.
* `copies_and_eq_of_aliasChain`: the model of an alias is a copy of the model at the end of
  its chain.
-/
namespace OpenApi

open Resolved (Enumeration Model ModelKind Property)

/-! ## Chains and their components -/

section Follow

variable {α : Type} {sectionName first name : String} {all other : Dict (Referable α)}
  {start link : Referable α} {value : α}

/-- The components on a chain are what it comes to. -/
theorem exists_linkAt_iff_onChain (hsection : '/' ∉ sectionName.toList)
    (hfirst : all.get? first = some start) :
    (∃ n, LinkAt sectionName all start n link) ↔
      ∃ name, OnChain sectionName all first name ∧ all.get? name = some link := by
  constructor
  · rintro ⟨n, hlink⟩
    induction hlink with
    | start => exact ⟨first, .start, hfirst⟩
    | step _ hleads ih =>
      obtain ⟨name, hname, href⟩ := ih
      cases hleads with
      | component hnext =>
        exact ⟨_, hname.step href ((componentName_eq_ok_iff hsection).2 rfl), hnext⟩
  · rintro ⟨name, hname, hlink⟩
    induction hname generalizing link with
    | start =>
      obtain rfl := Option.some.inj (hfirst.symm.trans hlink)
      exact ⟨0, .start⟩
    | step _ href hnext ih =>
      obtain ⟨n, hlinked⟩ := ih href
      exact ⟨n + 1, hlinked.step ((leads_reference_iff hsection).2 ⟨_, hnext, hlink⟩)⟩

/-- **A chain reaches the object that one of its components holds**, if there is one. -/
theorem follow_eq_ok_iff_onChain (hsection : '/' ∉ sectionName.toList)
    (hfirst : all.get? first = some start) : follow sectionName all start = .ok value ↔
      ∃ name, OnChain sectionName all first name ∧ all.get? name = some (.inline value) := by
  rw [← exists_linkAt_iff_onChain hsection hfirst, follow_eq_iff hsection]
  constructor
  · rintro ⟨h⟩
    exact ⟨_, h⟩
  · rintro ⟨n, h⟩
    exact .reaches h

/-- A chain with a component on it starts at a component. -/
theorem OnChain.exists_first (hname : OnChain sectionName all first name)
    (hlink : all.get? name = some link) : ∃ start, all.get? first = some start := by
  induction hname generalizing link with
  | start => exact ⟨link, hlink⟩
  | step _ href _ ih => exact ih href

/-- Two sections hold the same components on the chain from a name. -/
def SameOnChain (sectionName : String) (all other : Dict (Referable α)) (first : String) : Prop :=
  ∀ name, OnChain sectionName all first name → other.get? name = all.get? name

/-- Sections that agree on a chain have the same chain. -/
theorem SameOnChain.onChain_iff (h : SameOnChain sectionName all other first) :
    OnChain sectionName other first name ↔ OnChain sectionName all first name := by
  constructor
  · intro hname
    induction hname with
    | start => exact .start
    | step _ href hnext ih => exact ih.step ((h _ ih).symm.trans href) hnext
  · intro hname
    induction hname with
    | start => exact .start
    | step hprev href hnext ih => exact ih.step ((h _ hprev).trans href) hnext

/-- Sections that agree on a chain agree on the object that it reaches, or on that it
reaches none. -/
theorem SameOnChain.toOption_follow_eq (hsection : '/' ∉ sectionName.toList)
    (h : SameOnChain sectionName all other first) (hfirst : all.get? first = some start) :
    (follow sectionName other start).toOption = (follow sectionName all start).toOption := by
  have hother : other.get? first = some start := (h first .start).trans hfirst
  refine Option.ext fun value => ?_
  rw [toOption_eq_some_iff, toOption_eq_some_iff, follow_eq_ok_iff_onChain hsection hfirst,
    follow_eq_ok_iff_onChain hsection hother]
  refine exists_congr fun name => ?_
  rw [h.onChain_iff]
  exact and_congr_right fun hname => by rw [h name hname]

end Follow

/-! ## Copies -/

namespace Resolved

/-- Two kinds of models differ only in the name of an enumeration. -/
inductive ModelKind.Same : ModelKind → ModelKind → Prop
  | refl (kind : ModelKind) : ModelKind.Same kind kind
  | enumeration {info other : Enumeration} (h : info.Same other) :
    ModelKind.Same (.enumeration info) (.enumeration other)

/-- Two models have everything in common but their names, kinds, types and imports. -/
def Model.SameContent (model target : Model) : Prop :=
  model =
    { target with
      name := model.name
      className := model.className
      fieldName := model.fieldName
      kind := model.kind
      dataType := model.dataType
      imports := model.imports }

/-- A model is a copy of another one: it differs from it in its names, and where the class name
shows. -/
structure Model.Copies (model target : Model) : Prop where
  content : model.SameContent target
  kind : model.kind.Same target.kind
  dataType_of_object : model.kind = .object →
    model.dataType = model.className ∧ target.dataType = target.className
  dataType : model.kind ≠ .object → model.dataType = target.dataType
  /-- Both need the same models, and each leaves out its own class name. -/
  imports : ∃ needed : List String, model.imports = needed.filter (· != model.className)
    ∧ target.imports = needed.filter (· != target.className)

end Resolved

theorem distinctSorted_filter (keep : String → Bool) (names : List String) :
    distinctSorted (names.filter keep) = (distinctSorted names).filter keep := by
  refine (pairwise_distinctSorted _).eq_of_mem_iff ((pairwise_distinctSorted names).filter _) ?_
  simp

namespace Dialect

variable {dialect : Dialect}

/-- The class name shows in the kind of a model as the name of an enumeration, and in its type only
if the model is an object. -/
theorem modelKind_renamed (className other : String) (hasMembers : Bool) (body : Schema) :
    let kind := dialect.modelKind className hasMembers body
    let renamed := dialect.modelKind other hasMembers body
    kind.1.Same renamed.1 ∧ (kind.1 = .object → kind.2 = className ∧ renamed.2 = other)
      ∧ (kind.1 ≠ .object → kind.2 = renamed.2) := by
  unfold modelKind
  dsimp only
  split
  · exact ⟨.enumeration ⟨rfl, rfl⟩, nofun, fun _ => rfl⟩
  · split
    · exact ⟨.refl _, nofun, fun _ => rfl⟩
    · split
      · exact ⟨.refl _, fun _ => ⟨rfl, rfl⟩, fun h => absurd rfl h⟩
      · split
        · exact ⟨.refl _, nofun, fun _ => rfl⟩
        · exact ⟨.refl _, nofun, fun _ => rfl⟩

/-- The models that a model needs, its own included if it mentions that. -/
def needed (dialect : Dialect) (model : Model) : List String :=
  distinctSorted ((mentions model).filter (!dialect.isPrimitive ·))

theorem modelImports_eq_filter (model : Model) :
    dialect.modelImports model = (dialect.needed model).filter (· != model.className) := by
  rw [modelImports, needed, ← distinctSorted_filter, List.filter_filter]

theorem mentions_eq_of_sameContent {model target : Model} (h : model.SameContent target)
    (hkind : model.kind.Same target.kind) : mentions model = mentions target := by
  -- The projections are taken first: each sees through the fields that may differ.
  have hvars : model.vars = target.vars := (congrArg Model.vars h :)
  have hadditional : model.additionalProperties = target.additionalProperties :=
    (congrArg Model.additionalProperties h :)
  have honeOf : model.oneOf = target.oneOf := (congrArg Model.oneOf h :)
  have hanyOf : model.anyOf = target.anyOf := (congrArg Model.anyOf h :)
  have hallOf : model.allOf = target.allOf := (congrArg Model.allOf h :)
  rw [mentions, mentions, hvars, hadditional, honeOf, hanyOf, hallOf]
  generalize model.kind = kind, target.kind = other at hkind ⊢
  cases hkind <;> rfl

/-- **The models of one body under two names are copies of each other.** -/
theorem copies_bodyModel (name other : String) (body : Schema) :
    (dialect.bodyModel name body).Copies (dialect.bodyModel other body) := by
  have hcontent : (dialect.bodyModel name body).SameContent (dialect.bodyModel other body) := rfl
  obtain ⟨hkind, hobject, hrest⟩ := dialect.modelKind_renamed (dialect.naming.modelName name)
    (dialect.naming.modelName other)
    (!(dialect.vars body).isEmpty || (dialect.additional body).isSome) body
  have himports : ∃ needed : List String,
      (dialect.bodyModel name body).imports = needed.filter (· != dialect.naming.modelName name)
        ∧ (dialect.bodyModel other body).imports =
          needed.filter (· != dialect.naming.modelName other) := by
    refine ⟨dialect.needed (dialect.bodyModel name body), ?_, ?_⟩
    · exact dialect.modelImports_eq_filter (dialect.bodyModel name body)
    · rw [needed, mentions_eq_of_sameContent hcontent hkind]
      exact dialect.modelImports_eq_filter (dialect.bodyModel other body)
  exact ⟨hcontent, hkind, hobject, hrest, himports⟩

/-! ## The models of a document -/

/-- The model of a component schema, among those of a document. -/
def modelNamed? (dialect : Dialect) (document : Document) (name : String) : Option Model :=
  (dialect.models document).find? (·.name == name)

theorem modelNamed?_eq (document : Document) (name : String) :
    dialect.modelNamed? document name =
      (document.schemas.get? name).map (dialect.model document name) := by
  rw [modelNamed?, models, List.find?_map]
  simp only [Function.comp_def, name_model]
  rw [Dict.find?_sorted, Option.map_map]
  rfl

theorem model_eq_elim (document : Document) (name : String) (schema : Referable Schema) :
    dialect.model document name schema =
      (document.schema schema).toOption.elim (dialect.untypedModel name)
        (dialect.bodyModel name) := by
  rw [model]
  cases document.schema schema <;> rfl

/-- **A model depends on the components of its chain only.** -/
theorem modelNamed?_eq_of_sameOnChain {document other : Document} {name : String}
    (h : SameOnChain "schemas" document.schemas other.schemas name) :
    dialect.modelNamed? other name = dialect.modelNamed? document name := by
  rw [modelNamed?_eq, modelNamed?_eq, h name .start]
  cases hfirst : document.schemas.get? name with
  | none => rfl
  | some start =>
    have hschema : (other.schema start).toOption = (document.schema start).toOption :=
      h.toOption_follow_eq (by decide) hfirst
    rw [Option.map_some, Option.map_some, model_eq_elim, model_eq_elim, hschema]

/-- The model of an alias is made of the body at the end of its chain. -/
theorem modelNamed?_eq_bodyModel {document : Document} {name target : String} {body : Schema}
    (hchain : document.AliasChain name target)
    (hbody : document.schemas.get? target = some (.inline body)) :
    dialect.modelNamed? document name = some (dialect.bodyModel name body) := by
  obtain ⟨start, hfirst⟩ := hchain.exists_first hbody
  have hschema : document.schema start = .ok body :=
    (follow_eq_ok_iff_onChain (by decide) hfirst).2 ⟨target, hchain, hbody⟩
  rw [modelNamed?_eq, hfirst, Option.map_some, model, hschema]

end Dialect

/-- **The model of an alias is a copy of the model at the end of its chain**, and it is the same in
all documents with the same components on the chain. -/
theorem copies_and_eq_of_aliasChain {document : Document} {name target : String} {body : Schema}
    (hchain : document.AliasChain name target)
    (hbody : document.schemas.get? target = some (.inline body)) (dialect : Dialect) :
    (∃ model copied, dialect.modelNamed? document name = some model
        ∧ dialect.modelNamed? document target = some copied ∧ model.Copies copied)
      ∧ ∀ other : Document, SameOnChain "schemas" document.schemas other.schemas name →
        dialect.modelNamed? other name = dialect.modelNamed? document name := by
  refine ⟨⟨dialect.bodyModel name body, dialect.bodyModel target body, ?_, ?_, ?_⟩, fun _ h => ?_⟩
  · exact dialect.modelNamed?_eq_bodyModel hchain hbody
  · exact dialect.modelNamed?_eq_bodyModel .start hbody
  · exact dialect.copies_bodyModel name target body
  · exact dialect.modelNamed?_eq_of_sameOnChain h

/-- A schema that refers to the component that it is. -/
def nodeSchema : Schema where
  properties := [("next", .reference "#/components/schemas/Node")]

/-- An alias of an alias of a schema, and another schema. -/
def treeDocument (leaf : Schema) : Document where
  openapi := "3.0.3"
  info := { title := "trees", version := "1" }
  components := some
    { schemas := Dict.ofEntries
        [("Branch", .reference "#/components/schemas/Twig"),
          ("Twig", .reference "#/components/schemas/Node"), ("Node", .inline nodeSchema),
          ("Leaf", .inline leaf)] }

/-- The alias of a schema that refers to itself imports it, and no other component makes a
difference. -/
theorem copies_and_eq_of_aliasChain_treeDocument :
    (treeDocument {}).AliasChain "Branch" "Node"
      ∧ (treeDocument {}).schemas.get? "Node" = some (.inline nodeSchema)
      ∧ (∃ model copied, Dialect.modelNamed? {} (treeDocument {}) "Branch" = some model
          ∧ Dialect.modelNamed? {} (treeDocument {}) "Node" = some copied ∧ model.Copies copied)
      ∧ Dialect.modelNamed? {} (treeDocument nodeSchema) "Branch" =
          Dialect.modelNamed? {} (treeDocument {}) "Branch"
      ∧ (Dialect.bodyModel {} "Branch" nodeSchema).imports = ["Node"]
      ∧ (Dialect.bodyModel {} "Node" nodeSchema).imports = [] := by
  have hbranch : (treeDocument {}).schemas.get? "Branch" =
      some (.reference "#/components/schemas/Twig") := by rfl
  have htwig : (treeDocument {}).schemas.get? "Twig" =
      some (.reference "#/components/schemas/Node") := by rfl
  have hnode : (treeDocument {}).schemas.get? "Node" = some (.inline nodeSchema) := by rfl
  have hchain : (treeDocument {}).AliasChain "Branch" "Node" :=
    (OnChain.start.step hbranch (by decide +kernel)).step htwig (by decide +kernel)
  have hsame : SameOnChain "schemas" (treeDocument {}).schemas (treeDocument nodeSchema).schemas
      "Branch" := by
    intro link hlink
    have hlinks : link = "Branch" ∨ link = "Twig" ∨ link = "Node" := by
      induction hlink with
      | start => exact .inl rfl
      | step _ href hnext ih =>
        rcases ih with rfl | rfl | rfl
        · cases hbranch.symm.trans href
          exact .inr (.inl (Except.ok.inj (hnext.symm.trans (by decide +kernel))))
        · cases htwig.symm.trans href
          exact .inr (.inr (Except.ok.inj (hnext.symm.trans (by decide +kernel))))
        · cases hnode.symm.trans href
    rcases hlinks with rfl | rfl | rfl <;> rfl
  have hcopies := copies_and_eq_of_aliasChain hchain hnode {}
  exact ⟨hchain, hnode, hcopies.1, hcopies.2 _ hsame, by decide +kernel, by decide +kernel⟩

end OpenApi
