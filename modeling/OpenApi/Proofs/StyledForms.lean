import OpenApi.Proofs.Groups
import OpenApi.Proofs.ParameterBuckets
import OpenApi.Proofs.PropertyTypes
import OpenApi.Proofs.SnakeCase

/-!
# Forms of a name

A resolved document holds the names of tags, operations, parameters and properties in several case
styles, side by side. What the other styles make of a name they make of its form in snake case too,
so the forms in Pascal and camel case are found from that one. The other forms are not: the small
form of a name keeps what stands between its words, and a parameter has its identifier in the place
of camel case, which keeps an outer underscore.

## Main definitions

* `PascalRecovered`, `CamelRecovered`: a form is what its style makes of the form in snake case.
* `ParameterRecovered`: the forms of a parameter, as far as they are recovered.
* `Dialect.NamedThroughout`: a property has the forms of its name, at every depth.
* `Api.FormsRecovered`: the forms of all names of a resolved document are recovered.

## Main statements

* `UsedFrom.namedThroughout`: a schema in use has the forms of its name, at every depth.
* `splitWords_snakeCase_and_formsRecovered`: the words of a name in snake case, the styles of it,
  and the forms in a resolved document.
* `not_exists_forms_of_snake_pensDocument`: the forms that are not found from those in snake case.
-/
namespace OpenApi

open Resolved (Api Property)
open Text

/-! ## Recovered forms -/

/-- The form of a name in Pascal case is that of its form in snake case. -/
structure PascalRecovered (pascal snake : String) : Prop where
  snake_eq : snakeCase snake.toList = snake.toList
  pascal_eq : pascalCase snake.toList = pascal.toList

/-- The form of a name in camel case is that of its form in snake case, exactly if the name has a
letter or digit, or is empty. -/
structure CamelRecovered (name camel snake : String) : Prop where
  snake_eq : snakeCase snake.toList = snake.toList
  camel_eq_iff : camelCase snake.toList = camel.toList ↔
    name = "" ∨ ∃ c ∈ name.toList, c.isAlphanum = true

theorem pascalRecovered_ofList (source : List Char) :
    PascalRecovered (String.ofList (pascalCase source)) (String.ofList (snakeCase source)) where
  snake_eq := by rw [String.toList_ofList, snakeCase_snakeCase]
  pascal_eq := by rw [String.toList_ofList, String.toList_ofList, pascalCase_snakeCase]

theorem camelRecovered_ofList {name : String} {source : List Char}
    (hnil : source = [] ↔ name.toList = [])
    (hword : (∃ c ∈ source, c.isAlphanum = true) ↔ ∃ c ∈ name.toList, c.isAlphanum = true) :
    CamelRecovered name (String.ofList (camelCase source)) (String.ofList (snakeCase source)) where
  snake_eq := by rw [String.toList_ofList, snakeCase_snakeCase]
  camel_eq_iff := by
    rw [String.toList_ofList, String.toList_ofList, camelCase_snakeCase_eq_iff, hnil, hword,
      String.toList_eq_nil_iff]

namespace NameForms

theorem pascalRecovered (name : String) :
    PascalRecovered (NameForms.of name).pascal (NameForms.of name).snake :=
  pascalRecovered_ofList (spelledOut name.toList)

theorem camelRecovered (name : String) :
    CamelRecovered name (NameForms.of name).camel (NameForms.of name).snake :=
  camelRecovered_ofList (spelledOut_eq_nil_iff name.toList)
    (exists_isAlphanum_spelledOut_iff name.toList)

end NameForms

theorem Resolved.OperationNames.camelRecovered (id : String) :
    CamelRecovered id (OperationNames.of id).camel (OperationNames.of id).snake :=
  camelRecovered_ofList Iff.rfl Iff.rfl

/-! ## Properties -/

namespace Dialect

variable {dialect : Dialect} {property : Property}

/-- A property has the forms of its name, and so has each one inside it, at every depth. -/
def NamedThroughout (dialect : Dialect) (property : Property) : Prop :=
  ∀ inside ∈ property.nested, inside.names = dialect.propertyNames inside.names.base

theorem namedThroughout_of_inner
    (hself : property.names = dialect.propertyNames property.names.base)
    (hinner : ∀ inside ∈ property.type.inner,
      inside.names = dialect.propertyNames inside.names.base) :
    dialect.NamedThroughout property := by
  rw [NamedThroughout, Property.nested_eq]
  exact List.forall_mem_cons.2 ⟨hself, hinner⟩

theorem namedThroughout_anyProperty (name : String) (required : Bool) :
    dialect.NamedThroughout (dialect.anyProperty name required) :=
  namedThroughout_of_inner rfl fun _ hmem => nomatch hmem

-- Structural on the schema, as the rules for types are: only a list and an open record have a
-- property inside, and each of them gives it a name of its own.
mutual

theorem namedThroughout_property (name : String) (required : Bool) :
    ∀ schema : Referable Schema, dialect.NamedThroughout (dialect.property name required schema)
  | .reference path => by
    rw [property]
    exact namedThroughout_of_inner rfl fun _ hmem => nomatch hmem
  | .inline schema => by
    rw [property]
    exact namedThroughout_of_inner rfl (names_inner_schemaType name schema)
termination_by structural schema => schema

theorem names_inner_schemaType (name : String) : ∀ schema : Schema,
    ∀ inside ∈ (dialect.schemaType name schema).inner,
      inside.names = dialect.propertyNames inside.names.base
  | ⟨keywords, properties, additional, items, allOf, oneOf, anyOf⟩ => by
    rw [schemaType_eq]
    dsimp only
    cases shapeOf keywords (!properties.isEmpty) additional.isSome items.isSome with
    | enumeration => exact fun _ hmem => nomatch hmem
    | array =>
      cases items with
      | none => exact namedThroughout_anyProperty (itemName name) false
      | some schema => exact namedThroughout_property (itemName name) false schema
    | object =>
      dsimp only
      split
      · exact fun _ hmem => nomatch hmem
      · rcases additional with _ | (flag | schema)
        · exact fun _ hmem => nomatch hmem
        · cases flag with
          | false => exact fun _ hmem => nomatch hmem
          | true => exact namedThroughout_anyProperty valueName false
        · exact namedThroughout_property valueName false schema
    | scalar kind =>
      cases kind <;> exact fun _ hmem => nomatch hmem
    | undecided =>
      dsimp only
      split <;> exact fun _ hmem => nomatch hmem
termination_by structural schema => schema

end

/-- **A schema in use has the forms of its name, at every depth.** -/
theorem UsedFrom.namedThroughout {paths : List String} (h : dialect.UsedFrom paths property) :
    dialect.NamedThroughout property := by
  obtain ⟨name, required, schema, rfl, -⟩ := h
  cases schema with
  | none => exact namedThroughout_anyProperty name required
  | some schema => exact namedThroughout_property name required schema

end Dialect

/-! ## Parameters -/

/-- The forms of a parameter are recovered, its identifier in the place of camel case only without
an outer underscore. -/
structure ParameterRecovered (naming : Naming) (parameter : Resolved.Parameter) : Prop where
  pascal : PascalRecovered parameter.names.pascal parameter.names.snake
  /-- A body has the form of its name in the place of camel case. -/
  camel_of_body : parameter.place = .body →
    CamelRecovered parameter.names.base parameter.names.camel parameter.names.snake
  /-- Every other parameter has its identifier there. -/
  camel_of_ne_body : parameter.place ≠ .body →
    Naming.hasOuterUnderscore (sanitize parameter.names.base.toList) = false →
    (∃ c ∈ parameter.names.base.toList, c.isAlphanum = true) →
    parameter.names.camel =
      String.ofList (naming.escapeIdentifier (camelCase parameter.names.snake.toList))

namespace Dialect

variable {dialect : Dialect}

/-- A parameter has its identifier in the place of camel case. Without an outer underscore in its
name that is the camel case of its form in snake case, escaped. -/
theorem camel_parameterNames {name : String}
    (houter : Naming.hasOuterUnderscore (sanitize name.toList) = false)
    (hword : ∃ c ∈ name.toList, c.isAlphanum = true) :
    (dialect.parameterNames name).camel = String.ofList (dialect.naming.escapeIdentifier
      (camelCase (dialect.parameterNames name).snake.toList)) := by
  have hidentifier := Naming.identifier_eq_escapeIdentifier_snakeCase dialect.naming
    (show CaseStyle.camel ≠ .original by decide) houter hword
  change String.ofList (dialect.naming.identifier .camel name.toList) =
    String.ofList (dialect.naming.escapeIdentifier
      (camelCase (String.ofList (snakeCase (spelledOut name.toList))).toList))
  rw [hidentifier, String.toList_ofList]
  rfl

/-- **The forms of the parameters of an operation are recovered.** -/
theorem parameterRecovered_of_mem_declaredParameters {document : Document} {site : OperationSite}
    {parameter : Resolved.Parameter} (h : parameter ∈ dialect.declaredParameters document site) :
    ParameterRecovered dialect.naming parameter := by
  rcases mem_declaredParameters_iff.1 h with ⟨source, -, rfl⟩ | ⟨body, -, heq⟩
  · exact
      { pascal := NameForms.pascalRecovered source.name
        camel_of_body := fun hbody => absurd hbody source.location.place_ne_body
        camel_of_ne_body := fun _ houter hword => camel_parameterNames houter hword }
  · obtain ⟨entry, -, rfl⟩ := Option.map_eq_some_iff.1 heq
    exact
      { pascal := NameForms.pascalRecovered bodyName
        camel_of_body := fun _ => NameForms.camelRecovered bodyName
        camel_of_ne_body := fun hne => absurd rfl hne }

end Dialect

/-! ## Resolved documents -/

namespace Resolved.Api

/-- The properties that the models and the operations hold. -/
def properties (api : Api) : List Property :=
  api.models.flatMap (·.properties) ++ api.operations.flatMap (·.properties)

/-- The forms of all names are recovered from those in snake case: those of tags and properties in
Pascal and camel case, those of operations in camel case, and those of parameters as far as
`ParameterRecovered` says. -/
structure FormsRecovered (naming : Naming) (api : Api) : Prop where
  tag : ∀ group ∈ api.groups,
    PascalRecovered group.tag.pascal group.tag.snake
      ∧ CamelRecovered group.tag.original group.tag.camel group.tag.snake
  operation : ∀ operation ∈ api.operations,
    CamelRecovered operation.names.id operation.names.camel operation.names.snake
  parameter : ∀ operation ∈ api.operations,
    ∀ parameter ∈ operation.parameters ++ operation.buckets.parameters,
      ParameterRecovered naming parameter
  /-- At any depth of a property. -/
  property : ∀ property ∈ api.properties, ∀ inside ∈ property.nested,
    PascalRecovered inside.names.pascal inside.names.snake
      ∧ CamelRecovered inside.names.base inside.names.camel inside.names.snake

end Resolved.Api

variable {document : Document} {options : ResolveOptions}

/-- The properties of a resolved document have the forms of their names, at every depth. -/
theorem namedThroughout_of_mem_properties {property : Property}
    (h : property ∈ (document.resolved options).properties) :
    options.dialect.NamedThroughout property := by
  rcases List.mem_append.1 h with hmodel | hoperation
  · obtain ⟨model, hmodel, hmem⟩ := List.mem_flatMap.1 hmodel
    obtain ⟨⟨name, schema⟩, -, rfl⟩ := List.mem_map.1 hmodel
    dsimp only at hmem
    rw [Dialect.model] at hmem
    cases hbody : document.schema schema with
    | error _ =>
      rw [hbody] at hmem
      nomatch hmem
    | ok body =>
      rw [hbody] at hmem
      exact (Dialect.usedFrom_bodyModel hmem).namedThroughout
  · obtain ⟨operation, hoperation, hmem⟩ := List.mem_flatMap.1 hoperation
    obtain ⟨site, id, rfl⟩ := exists_site_of_mem_operations hoperation
    exact (Dialect.usedFrom_operation hmem).namedThroughout

theorem formsRecovered_resolved (document : Document) (options : ResolveOptions) :
    (document.resolved options).FormsRecovered options.naming where
  tag := by
    intro group hgroup
    obtain ⟨tag, -, htag, -⟩ := exists_tag_of_mem_groups hgroup
    rw [htag]
    exact ⟨NameForms.pascalRecovered tag, NameForms.camelRecovered tag⟩
  operation := by
    intro operation hoperation
    obtain ⟨site, id, rfl⟩ := exists_site_of_mem_operations hoperation
    exact Resolved.OperationNames.camelRecovered id
  parameter := by
    intro operation hoperation parameter hmem
    obtain ⟨site, id, rfl⟩ := exists_site_of_mem_operations hoperation
    exact Dialect.parameterRecovered_of_mem_declaredParameters
      (Dialect.mem_declaredParameters_of_mem rfl hmem)
  property := by
    intro property hmem inside hinside
    rw [namedThroughout_of_mem_properties hmem inside hinside]
    exact ⟨NameForms.pascalRecovered _, NameForms.camelRecovered _⟩

/-- **Snake case is a canonical form of a name.** The words of a name in snake case are its words in
small letters. So snake case leaves it as it is then, the other styles make the same of it as of the
name (camel case if there is any word), and names with the same words have one form. The forms in
Pascal and camel case of the names in a resolved document are found from those in snake case. -/
theorem splitWords_snakeCase_and_formsRecovered :
    (∀ name : List Char,
        splitWords (snakeCase name) = (splitWords name).map lowerWord
          ∧ snakeCase (snakeCase name) = snakeCase name
          ∧ pascalCase (snakeCase name) = pascalCase name
          ∧ (camelCase (snakeCase name) = camelCase name ↔
            name = [] ∨ ∃ c ∈ name, c.isAlphanum = true))
      ∧ (∀ name other : List Char, snakeCase name = snakeCase other ↔ SameWords name other)
      ∧ ∀ (document : Document) (options : ResolveOptions) (api : Api),
          document.resolve options = .ok api → api.FormsRecovered options.naming := by
  refine ⟨fun name => ?_, fun _ _ => snakeCase_eq_iff, fun document options api h => ?_⟩
  · exact ⟨splitWords_snakeCase name, snakeCase_snakeCase name, pascalCase_snakeCase name,
      camelCase_snakeCase_eq_iff⟩
  · obtain rfl := Document.resolved_of_resolve h
    exact formsRecovered_resolved document options

/-- A tag that is spelled out, an operation and a parameter with boundaries of both kinds, and a
property without a word that holds a list. -/
def cratesDocument : Document where
  openapi := "3.0.3"
  info := { title := "crates", version := "1" }
  components := some
    { schemas := Dict.ofEntries
        [("Crate", .inline
            { properties :=
                [("$", .inline
                  { items := some (.inline { type := some (.single .string) }) })] })] }
  paths := Dict.ofEntries
    [("/crates",
      { get := some
          { operationId := some "list-allCRATES"
            tags := ["+1"]
            parameters := [.inline { name := "perPage_Max", location := .query }] } })]

theorem splitWords_snakeCase_and_formsRecovered_crates :
    cratesDocument.resolve {} = .ok (cratesDocument.resolved {})
      ∧ (cratesDocument.resolved {}).FormsRecovered {}
      ∧ (cratesDocument.resolved {}).groups.map (fun group =>
          (group.tag.snake, group.tag.camel, group.tag.pascal)) = [("plus1", "plus1", "Plus1")]
      ∧ (cratesDocument.resolved {}).operations.map (fun operation =>
          (operation.names.snake, operation.names.camel)) = [("list_all_crates", "listAllCrates")]
      ∧ ((cratesDocument.resolved {}).properties.flatMap (·.nested)).map (fun property =>
          (property.names.snake, property.names.camel, property.names.pascal)) =
        [("", "$", ""), ("item", "item", "Item")]
          ++ List.replicate 3 ("per_page_max", "perPageMax", "PerPageMax") := by
  have hresolve : cratesDocument.resolve {} = .ok (cratesDocument.resolved {}) := rfl
  exact ⟨hresolve, splitWords_snakeCase_and_formsRecovered.2.2 cratesDocument {} _ hresolve,
    by decide +kernel, by decide +kernel, by decide +kernel⟩

/-- No function finds the forms of items from those in snake case if two of them have one form in
snake case and different other forms. -/
theorem not_exists_form_of_snake {α : Type} {items : List α} {snake form : α → String}
    {shared first second : String}
    (hfirst : (shared, first) ∈ items.map fun item => (snake item, form item))
    (hsecond : (shared, second) ∈ items.map fun item => (snake item, form item))
    (hne : first ≠ second) :
    ¬∃ find : String → String, ∀ item ∈ items, form item = find (snake item) := by
  rintro ⟨find, hfind⟩
  have hpairs : ∀ pair ∈ items.map fun item => (snake item, form item), pair.2 = find pair.1 :=
    List.forall_mem_map.2 hfind
  exact hne ((hpairs _ hfirst).trans (hpairs _ hsecond).symm)

/-- Tags, operations and parameters in pairs, each with the same words in both names. -/
def pensDocument : Document where
  openapi := "3.0.3"
  info := { title := "pens", version := "1" }
  paths := Dict.ofEntries
    [("/pens",
      { get := some
          { operationId := some "list-pens"
            tags := ["farm-pens"]
            parameters :=
              [.inline { name := "_id", location := .query },
                .inline { name := "id", location := .query }] }
        post := some { operationId := some "listPens", tags := ["farmPens"] } })]

/-- **The small forms of tags and operations are not found from those in snake case**, and neither
is what a parameter has in the place of camel case. -/
theorem not_exists_forms_of_snake_pensDocument :
    pensDocument.resolve {} = .ok (pensDocument.resolved {})
      ∧ (¬∃ find : String → String, ∀ group ∈ (pensDocument.resolved {}).groups,
          group.tag.small = find group.tag.snake)
      ∧ (¬∃ find : String → String, ∀ operation ∈ (pensDocument.resolved {}).operations,
          operation.names.small = find operation.names.snake)
      ∧ ¬∃ find : String → String,
          ∀ parameter ∈ (pensDocument.resolved {}).operations.flatMap (·.parameters),
            parameter.names.camel = find parameter.names.snake := by
  refine ⟨rfl, ?tag, ?operation, ?parameter⟩
  case tag =>
    exact not_exists_form_of_snake (show ("farm_pens", "farm-pens") ∈ _ by decide +kernel)
      (show ("farm_pens", "farmpens") ∈ _ by decide +kernel) (by decide)
  case operation =>
    exact not_exists_form_of_snake (show ("list_pens", "list-pens") ∈ _ by decide +kernel)
      (show ("list_pens", "listpens") ∈ _ by decide +kernel) (by decide)
  case parameter =>
    exact not_exists_form_of_snake (show ("id", "_id") ∈ _ by decide +kernel)
      (show ("id", "id") ∈ _ by decide +kernel) (by decide)

end OpenApi
