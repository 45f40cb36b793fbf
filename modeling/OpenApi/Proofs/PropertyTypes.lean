import OpenApi.Resolution.Document

/-!
# Types of properties

The type of a property is a text, the text of what it holds, and a kind, and the three go together.
A schema gives its property a type by one of seven rules, two of which put another property inside.
What holds of the types that the rules build holds of a resolved property at every depth.

## Main definitions

* `Property.nested`: a property and those inside it, at every depth.
* `PropertyType.WellFormed`: how the parts of a type go together.
* `Dialect.Builds`: a statement holds of whatever the rules build.
* `ResolveOptions.NamesGiven`: the names and targets that a project gives are not empty.

## Main statements

* `Builds.forall_nested_property`: what the rules build is all there is, at every depth.
* `TypeTable.target_ne_empty`: a table of a project has no empty target.
* `wellFormed_nested_property`: the types of a resolved property are well formed at every depth.
-/
namespace OpenApi

open Resolved (Enumeration Property PropertyKind PropertyType ScalarKind)

/-! ## Depth -/

namespace Resolved

/-- A property and those inside it, at every depth. -/
def Property.nested : Property → List Property
  | ⟨names, required, traits, ⟨dataType, baseType, kind, format, isPrimitive⟩⟩ =>
    ⟨names, required, traits, ⟨dataType, baseType, kind, format, isPrimitive⟩⟩ ::
    match kind with
    | .array items => items.nested
    | .map values => values.nested
    | _ => []
termination_by structural property => property

/-- The properties inside a type, at every depth. -/
def PropertyType.inner (type : PropertyType Property) : List Property :=
  match type.kind with
  | .array items => items.nested
  | .map values => values.nested
  | _ => []

theorem Property.nested_eq (property : Property) :
    property.nested = property :: property.type.inner := by
  obtain ⟨names, required, traits, dataType, baseType, kind, format, isPrimitive⟩ := property
  cases kind <;> simp [Property.nested, PropertyType.inner]

/-- A statement holds of a type and of the types of the properties inside. -/
def PropertyType.Everywhere (P : PropertyType Property → Prop) (type : PropertyType Property) :
    Prop :=
  P type ∧ ∀ property ∈ type.inner, P property.type

variable {P : PropertyType Property → Prop}

theorem Property.everywhere_iff {property : Property} :
    property.type.Everywhere P ↔ ∀ inside ∈ property.nested, P inside.type := by
  rw [Property.nested_eq, List.forall_mem_cons, PropertyType.Everywhere]

/-- A type with nothing inside. -/
theorem PropertyType.everywhere_of_inner {type : PropertyType Property} (h : P type)
    (hinner : type.inner = []) : type.Everywhere P :=
  ⟨h, fun _ hmem => absurd (hinner ▸ hmem) List.not_mem_nil⟩

end Resolved

/-! ## Rules -/

namespace Dialect

variable {dialect : Dialect} {P : PropertyType Property → Prop}

/-- A statement holds of the types that the rules build, of lists and open records if it holds of
what is inside. -/
structure Builds (dialect : Dialect) (P : PropertyType Property → Prop) : Prop where
  any : P dialect.anyType
  model : ∀ path, P (modelType (dialect.referenceModel path))
  freeForm : P dialect.freeFormType
  scalar : ∀ scalar format, P (dialect.scalarType scalar format)
  enumeration : ∀ name keywords, P (dialect.enumerationType name keywords)
  array : ∀ items : Property, P items.type → P (arrayType items)
  map : ∀ values : Property, P values.type → P (mapType values)

namespace Builds

theorem everywhere_scalarType (h : dialect.Builds P) (scalar : ScalarKind)
    (format : Option String) : (dialect.scalarType scalar format).Everywhere P :=
  PropertyType.everywhere_of_inner (h.scalar scalar format) (by cases scalar <;> rfl)

theorem everywhere_anyProperty (h : dialect.Builds P) (name : String) (required : Bool) :
    (dialect.anyProperty name required).type.Everywhere P :=
  PropertyType.everywhere_of_inner h.any rfl

theorem everywhere_modelType (h : dialect.Builds P) (path : String) :
    (modelType (dialect.referenceModel path)).Everywhere P :=
  PropertyType.everywhere_of_inner (h.model path) rfl

theorem everywhere_arrayType (h : dialect.Builds P) {items : Property}
    (hitems : items.type.Everywhere P) : (arrayType items).Everywhere P :=
  ⟨h.array items hitems.1, Property.everywhere_iff.1 hitems⟩

theorem everywhere_mapType (h : dialect.Builds P) {values : Property}
    (hvalues : values.type.Everywhere P) : (mapType values).Everywhere P :=
  ⟨h.map values hvalues.1, Property.everywhere_iff.1 hvalues⟩

-- Structural on the schema: an array goes on to its items and an open record to its values, and
-- every other shape is a rule of its own.
mutual

theorem everywhere_property (h : dialect.Builds P) (name : String) (required : Bool) :
    ∀ schema : Referable Schema, (dialect.property name required schema).type.Everywhere P
  | .reference path => by
    rw [property]
    exact h.everywhere_modelType path
  | .inline schema => by
    rw [property]
    exact everywhere_schemaType h name schema
termination_by structural schema => schema

theorem everywhere_schemaType (h : dialect.Builds P) (name : String) :
    ∀ schema : Schema, (dialect.schemaType name schema).Everywhere P
  | ⟨keywords, properties, additional, items, allOf, oneOf, anyOf⟩ => by
    rw [schemaType_eq]
    dsimp only
    cases shapeOf keywords (!properties.isEmpty) additional.isSome items.isSome with
    | enumeration => exact PropertyType.everywhere_of_inner (h.enumeration name keywords) rfl
    | array =>
      cases items with
      | none => exact h.everywhere_arrayType (h.everywhere_anyProperty (itemName name) false)
      | some schema =>
        exact h.everywhere_arrayType (everywhere_property h (itemName name) false schema)
    | object =>
      dsimp only
      split
      · exact PropertyType.everywhere_of_inner h.freeForm rfl
      · rcases additional with _ | (flag | schema)
        · exact PropertyType.everywhere_of_inner h.freeForm rfl
        · cases flag with
          | false => exact PropertyType.everywhere_of_inner h.freeForm rfl
          | true => exact h.everywhere_mapType (h.everywhere_anyProperty valueName false)
        · exact h.everywhere_mapType (everywhere_property h valueName false schema)
    | scalar kind => exact h.everywhere_scalarType kind keywords.format
    | undecided =>
      dsimp only
      split
      · exact h.everywhere_modelType _
      · exact PropertyType.everywhere_of_inner h.any rfl
termination_by structural schema => schema

end

/-- **What the rules build is all there is**: a statement that holds of it holds of the types of a
resolved property at every depth. -/
theorem forall_nested_property (h : dialect.Builds P) (name : String) (required : Bool)
    (schema : Referable Schema) :
    ∀ inside ∈ (dialect.property name required schema).nested, P inside.type :=
  Property.everywhere_iff.1 (h.everywhere_property name required schema)

end Builds

end Dialect

/-! ## Targets -/

/-- Rows without an empty target, one of which is that of schemas without a type. -/
structure TypeTable.RowsNamed (rows : Dict String) : Prop where
  target_ne : ∀ key target, rows.get? key = some target → target ≠ ""
  untyped : ∃ target, rows.get? "" = some target

namespace TypeTable

variable {table : TypeTable} {rows : Dict String}

theorem RowsNamed.insert (h : RowsNamed rows) {key target : String} (hne : target ≠ "") :
    RowsNamed (rows.insert key target) where
  target_ne := by
    intro other found hfound
    rw [Dict.get?_insert] at hfound
    split at hfound
    · exact Option.some.inj hfound ▸ hne
    · exact h.target_ne other found hfound
  untyped := by
    rw [Dict.get?_insert]
    split
    · exact ⟨target, rfl⟩
    · exact h.untyped

theorem rowsNamed_standardRows : RowsNamed standardRows where
  target_ne := by
    intro key target hfound
    have hnamed : ∀ entry ∈ standardRows.entries, entry.2 ≠ "" := by decide +kernel
    exact hnamed (key, target) (Dict.mem_entries_iff.2 hfound)
  untyped := ⟨"any", by decide +kernel⟩

/-- The rows that a project adds keep the table without an empty target. -/
theorem rowsNamed_withRows (h : ∀ target ∈ rows.values, target ≠ "") :
    RowsNamed (withRows rows).rows := by
  have hentries : ∀ entry ∈ rows.entries, entry.2 ≠ "" := fun entry hentry =>
    h entry.2 (List.mem_map_of_mem hentry)
  unfold withRows
  generalize rows.entries = entries at hentries
  suffices hfold : ∀ table, RowsNamed table →
      RowsNamed (entries.foldl (fun table row => table.insert row.1 row.2) table) from
    hfold _ rowsNamed_standardRows
  induction entries with
  | nil => exact fun _ htable => htable
  | cons entry rest ih =>
    obtain ⟨hentry, hrest⟩ := List.forall_mem_cons.1 hentries
    exact fun table htable => ih hrest _ (htable.insert hentry)

/-- What a look-up finds stands in some row. -/
theorem exists_row_of_rowTarget (table : TypeTable) (type : String) (format : Option String) :
    (∃ key, table.rows.get? key = some (table.rowTarget type format))
      ∨ table.rows.get? type = none ∧ table.rowTarget type format = type := by
  unfold rowTarget
  dsimp only
  cases hformat : format.bind fun format =>
      (table.rows.get? (type ++ ":" ++ format)).or (table.rows.get? format) with
  | some target =>
    obtain ⟨format, -, hfound⟩ := Option.bind_eq_some_iff.1 hformat
    rcases Option.or_eq_some_iff.1 hfound with hboth | ⟨-, hkey⟩
    · exact Or.inl ⟨_, hboth⟩
    · exact Or.inl ⟨_, hkey⟩
  | none =>
    cases htype : table.rows.get? type with
    | some target => exact Or.inl ⟨type, htype⟩
    | none => exact Or.inr ⟨rfl, rfl⟩

/-- **A table without an empty target has none for any type and format**, one that no row knows
included. -/
theorem target_ne_empty (hrows : RowsNamed table.rows)
    (hoverride : ∀ type format, table.override type format ≠ some "") (type : String)
    (format : Option String) : table.target type format ≠ "" := by
  unfold target
  cases hgiven : table.override type format with
  | some given =>
    rintro rfl
    exact hoverride type format hgiven
  | none =>
    rw [Option.getD_none]
    rcases exists_row_of_rowTarget table type format with ⟨key, hrow⟩ | ⟨hnone, htype⟩
    · exact hrows.target_ne key _ hrow
    · rw [htype]
      rintro rfl
      obtain ⟨target, hfound⟩ := hrows.untyped
      rw [hnone] at hfound
      nomatch hfound

end TypeTable

/-- A model name is empty only if a project gives an empty one, or an empty prefix. -/
theorem Naming.modelName_ne_empty {naming : Naming} (hsafe : naming.safePrefix ≠ "")
    (hnames : ∀ given ∈ naming.modelNames.values, given ≠ "") (name : String) :
    naming.modelName name ≠ "" := by
  unfold Naming.modelName
  split
  · rename_i given hgiven
    exact hnames given (Dict.mem_values_iff.2 ⟨name, hgiven⟩)
  · refine mt String.ofList_eq_empty_iff.1 ?_
    unfold Naming.className
    dsimp only
    split
    · exact List.append_ne_nil_of_left_ne_nil (mt String.toList_eq_nil_iff.1 hsafe) _
    · rename_i hkept
      simp only [Bool.or_eq_true, not_or, List.isEmpty_iff] at hkept
      exact hkept.1

/-! ## Well-formed types -/

namespace Resolved.PropertyType

/-- The texts of a type are those of its kind: those of a list and of an open record are made of the
text of what is inside, and a model is its own text. -/
def TextsOfKind (type : PropertyType Property) : Prop :=
  match type.kind with
  | .array items =>
    type.dataType = "Array<" ++ items.type.dataType ++ ">"
      ∧ type.baseType = items.type.dataType
  | .map values =>
    type.dataType = "\x7b [key: string]: " ++ values.type.dataType ++ "; \x7d"
      ∧ type.baseType = values.type.dataType
  | .model name => type.dataType = name ∧ type.baseType = name
  | _ => type.baseType = type.dataType

/-- Whether a kind, with a format, is one of the scalars that need no conversion. -/
def isScalarKind : PropertyKind Property → Option Format → Bool
  | .enumeration _, _ | .integer, _ | .number, _ | .boolean, _ => true
  | .string, format => format != some .binary
  | _, _ => false

/-- How the parts of a type go together. -/
structure WellFormed (type : PropertyType Property) : Prop where
  dataType_ne : type.dataType ≠ ""
  baseType_ne : type.baseType ≠ ""
  texts : type.TextsOfKind
  kind_of_format : ∀ format, type.format = some format → type.kind = .string
  isPrimitive : type.isPrimitive = isScalarKind type.kind type.format

end Resolved.PropertyType

open Resolved.PropertyType (WellFormed)

namespace Dialect

variable {dialect : Dialect}

/-- A dialect without an empty name or target. -/
structure NeverEmpty (dialect : Dialect) : Prop where
  modelName_ne : ∀ name, dialect.naming.modelName name ≠ ""
  target_ne : ∀ type format, dialect.types.target type format ≠ ""

theorem wellFormed_scalarType (h : dialect.NeverEmpty) (scalar : ScalarKind)
    (format : Option String) : WellFormed (dialect.scalarType scalar format) where
  dataType_ne := h.target_ne _ _
  baseType_ne := h.target_ne _ _
  texts := by cases scalar <;> rfl
  kind_of_format := by
    -- Only for a text is the format looked at.
    cases scalar with
    | string => exact fun _ _ => rfl
    | _ => exact fun _ hformat => nomatch hformat
  isPrimitive := by cases scalar <;> rfl

theorem wellFormed_arrayType {items : Property} (h : WellFormed items.type) :
    WellFormed (arrayType items) where
  dataType_ne := fun hempty => absurd (String.append_eq_empty_iff.1 hempty).2 (by decide)
  baseType_ne := h.dataType_ne
  texts := ⟨rfl, rfl⟩
  kind_of_format := fun _ hformat => nomatch hformat
  isPrimitive := rfl

theorem wellFormed_mapType {values : Property} (h : WellFormed values.type) :
    WellFormed (mapType values) where
  dataType_ne := fun hempty => absurd (String.append_eq_empty_iff.1 hempty).2 (by decide)
  baseType_ne := h.dataType_ne
  texts := ⟨rfl, rfl⟩
  kind_of_format := fun _ hformat => nomatch hformat
  isPrimitive := rfl

/-- Every rule builds a well-formed type. -/
theorem builds_wellFormed (h : dialect.NeverEmpty) : dialect.Builds WellFormed where
  any := ⟨h.target_ne _ _, h.target_ne _ _, rfl, fun _ hformat => (nomatch hformat), rfl⟩
  model := fun _ => ⟨h.modelName_ne _, h.modelName_ne _, ⟨rfl, rfl⟩,
    fun _ hformat => (nomatch hformat), rfl⟩
  freeForm := ⟨h.target_ne _ _, h.target_ne _ _, rfl, fun _ hformat => (nomatch hformat), rfl⟩
  scalar := wellFormed_scalarType h
  enumeration := fun _ _ => ⟨h.target_ne _ _, h.target_ne _ _, rfl,
    fun _ hformat => (nomatch hformat), rfl⟩
  array := fun _ => wellFormed_arrayType
  map := fun _ => wellFormed_mapType

end Dialect

/-! ## Projects -/

/-- The names and targets that a project gives are not empty. -/
structure ResolveOptions.NamesGiven (options : ResolveOptions) : Prop where
  safePrefix : options.naming.safePrefix ≠ ""
  modelNames : ∀ given ∈ options.naming.modelNames.values, given ≠ ""
  typeMappings : ∀ target ∈ options.typeMappings.values, target ≠ ""
  override : ∀ type format, options.override type format ≠ some ""

theorem ResolveOptions.NamesGiven.neverEmpty {options : ResolveOptions} (h : options.NamesGiven) :
    options.dialect.NeverEmpty where
  modelName_ne := Naming.modelName_ne_empty h.safePrefix h.modelNames
  target_ne := TypeTable.target_ne_empty (TypeTable.rowsNamed_withRows h.typeMappings) h.override

/-- **The types of a resolved property are well formed at every depth**, whatever the schema, for
every project that gives no empty name. A project that gives none at all is such a one. -/
theorem wellFormed_nested_property :
    ResolveOptions.NamesGiven {}
      ∧ ∀ options : ResolveOptions, options.NamesGiven →
        ∀ (name : String) (required : Bool) (schema : Referable Schema),
          ∀ property ∈ (options.dialect.property name required schema).nested,
            WellFormed property.type :=
  ⟨⟨by decide, fun _ hmem => (nomatch hmem), fun _ hmem => (nomatch hmem), fun _ _ => nofun⟩,
    fun _ h => (Dialect.builds_wellFormed h.neverEmpty).forall_nested_property⟩

/-- A project with a target of its own for one format, and whole numbers by another name. -/
def ledgerOptions : ResolveOptions where
  typeMappings := Dict.ofEntries [("string:uuid", "UUID")]
  override := fun type _ => if type = "integer" then some "int" else none

/-- A list of open records of identifiers. -/
def ledgerSchema : Referable Schema :=
  .inline
    { type := some (.single .array)
      items := some (.inline
        { additionalProperties := some (.values (.inline
            { type := some (.single .string), format := some "uuid" })) }) }

theorem wellFormed_nested_property_ledger :
    ledgerOptions.NamesGiven
      ∧ (ledgerOptions.dialect.property "entries" true ledgerSchema).nested.map (·.type.dataType) =
        ["Array<\x7b [key: string]: UUID; \x7d>", "\x7b [key: string]: UUID; \x7d", "UUID"]
      ∧ ∀ property ∈ (ledgerOptions.dialect.property "entries" true ledgerSchema).nested,
          WellFormed property.type := by
  have hgiven : ledgerOptions.NamesGiven := by
    refine ⟨by decide, fun _ hmem => (nomatch hmem), by decide, fun type _ => ?_⟩
    simp only [ledgerOptions]
    split <;> simp
  exact ⟨hgiven, by decide +kernel,
    wellFormed_nested_property.2 _ hgiven "entries" true ledgerSchema⟩

end OpenApi
