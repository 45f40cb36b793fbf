import OpenApi.Naming
import OpenApi.Node.Reading
import OpenApi.Validation

/-!
# Project settings

The choices of a project as they stand in its settings file.

## Main definitions

* `Settings`: the choices.
* `Settings.read`: the choices of a node; what is missing has its usual value.
* `Settings.template`: the file that a project starts with.
-/
namespace OpenApi

open Node (asText asList asDict asChoice asOption)

/-- The choices of a project. -/
structure Settings where
  /-- The document to work on. -/
  input : String := "openapi.yaml"
  naming : Naming := {}
  /-- Rows added to the type table. -/
  typeMappings : Dict String := ∅
  /-- New ids for operations. -/
  aliases : Dict String := ∅
  validation : Policy := .lenient
deriving Inhabited

/-- The spellings of the case styles. -/
def CaseStyle.byName : List (String × CaseStyle) :=
  [("original", .original), ("camelCase", .camel), ("PascalCase", .pascal), ("snake_case", .snake)]

/-- The spellings of the policies. -/
def Policy.byName : List (String × Policy) := [("strict", .strict), ("lenient", .lenient)]

/-- The members of the naming choices. -/
def Naming.record : Record Naming where
  blank := {}
  members :=
    [.defaulted "safe_prefix" asText fun x n => { n with safePrefix := x },
      .defaulted "model_name_prefix" (asOption asText) fun x n => { n with modelPrefix := x },
      .defaulted "model_name_suffix" (asOption asText) fun x n => { n with modelSuffix := x },
      .defaulted "property_naming" (asChoice CaseStyle.byName)
        fun x n => { n with fieldStyle := x },
      .defaulted "reserved_words" (asList asText) fun x n => { n with extraReserved := x },
      .defaulted "primitives" (asList asText) fun x n => { n with extraBuiltins := x },
      .defaulted "model_name_mappings" (asDict asText) fun x n => { n with modelNames := x },
      .defaulted "api_name_suffix" asText fun x n => { n with apiSuffix := x }]

/-- The members of the settings. -/
def Settings.record : Record Settings where
  blank := {}
  members :=
    [.defaulted "input" asText fun x s => { s with input := x },
      .defaulted "naming" Naming.record.read fun x s => { s with naming := x },
      .defaulted "type_mappings" (asDict asText) fun x s => { s with typeMappings := x },
      .defaulted "aliases" (asDict asText) fun x s => { s with aliases := x },
      .defaulted "validation" (asChoice Policy.byName) fun x s => { s with validation := x }]

/-- Read the settings. -/
def Settings.read : Node → Decoded Settings := Settings.record.read

/-- The lines of the file that a project starts with. -/
def Settings.templateLines : List String :=
  ["# oasir configuration",
    "input: openapi.yaml",
    "validation: lenient     # lenient | strict",
    "",
    "naming:",
    "  safe_prefix: Model",
    "  property_naming: camelCase   # original | camelCase | PascalCase | snake_case",
    "  # model_name_prefix: Api",
    "  # model_name_suffix: Dto",
    "  reserved_words: []",
    "  model_name_mappings: \x7b\x7d",
    "    # LegacyPet: Pet",
    "",
    "type_mappings: \x7b\x7d",
    "  # string:uuid: UUID",
    "  # date-time: string",
    "",
    "aliases: \x7b\x7d",
    "  # createChatCompletion: chat     # operationId → custom name"]

/-- The file that a project starts with. -/
def Settings.template : String := String.join (templateLines.map (· ++ "\n"))

end OpenApi
