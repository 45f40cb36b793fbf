import OpenApi.Dict
import OpenApi.Text.Words

/-!
# Naming

How the names of a document become identifiers of generated code. A `Naming` holds the choices of a
project: the words that no identifier may equal, the affixes of model names, and the case style of
fields. Reserved words are matched without regard to case, built-in type names exactly.

## Main definitions

* `Naming`: the choices.
* `Naming.modelName`, `Naming.fieldName`, `Naming.parameterName`, `Naming.apiName`: the identifiers.
* `NameForms`: a name in every case style.
* `synthesizeOperationId`: the id of an operation that declares none.
-/
namespace OpenApi

open Text

/-! ## Word lists -/

/-- Locals of generated methods, keywords and browser built-ins, in small letters. -/
def reservedWords : List String :=
  ["varlocalpath", "queryparameters", "headerparams", "formparams", "useformdata",
    "varlocaldeferred", "requestoptions",
    "abstract", "await", "boolean", "break", "byte", "case", "catch", "char", "class", "const",
    "continue", "debugger", "default", "delete", "do", "double", "else", "enum", "export",
    "extends", "false", "final", "finally", "float", "for", "function", "goto", "if",
    "implements", "import", "in", "instanceof", "int", "interface", "let", "long", "native",
    "new", "null", "package", "private", "protected", "public", "return", "short", "static",
    "super", "switch", "synchronized", "this", "throw", "transient", "true", "try", "typeof",
    "var", "void", "volatile", "while", "with", "yield",
    "blob", "file", "date", "error", "map", "set", "array", "object"]

/-- Built-in type names of the generated code. -/
def builtinTypes : List String :=
  ["string", "String", "boolean", "Boolean", "Double", "Integer", "Long", "Float", "Object",
    "Array", "ReadonlyArray", "Date", "number", "any", "File", "Error", "Map", "Set"]

/-! ## Choices -/

/-- The case style of field names. -/
inductive CaseStyle where
  | original
  | camel
  | pascal
  | snake
deriving DecidableEq, Repr, Inhabited

/-- Write a name in a case style. -/
def CaseStyle.apply : CaseStyle → List Char → List Char
  | .original => id
  | .camel => camelCase
  | .pascal => pascalCase
  | .snake => snakeCase

/-- The naming choices of a project. -/
structure Naming where
  /-- Put in front of a model name that would not be usable. -/
  safePrefix : String := "Model"
  modelPrefix : Option String := none
  modelSuffix : Option String := none
  /-- The case style of field names. -/
  fieldStyle : CaseStyle := .camel
  /-- Reserved words besides `reservedWords`. -/
  extraReserved : List String := []
  /-- Built-in type names besides `builtinTypes`. -/
  extraBuiltins : List String := []
  /-- Class names given outright, by schema name. -/
  modelNames : Dict String := ∅
  apiSuffix : String := "Api"
deriving Inhabited

namespace Naming

/-- Whether a word is reserved, in any mixture of capital and small letters. -/
def isReserved (naming : Naming) (word : String) : Bool :=
  let small := toSmall word
  reservedWords.contains small || (naming.extraReserved.map toSmall).contains small

/-- Whether a name is a built-in type. -/
def isBuiltin (naming : Naming) (name : String) : Bool :=
  builtinTypes.contains name || naming.extraBuiltins.contains name

/-- Whether a name cannot stand as an identifier by itself. -/
def clashes (naming : Naming) (name : List Char) : Bool :=
  naming.isReserved (String.ofList name) || startsWithDigit name
    || naming.isBuiltin (String.ofList name)

/-! ## Model names -/

/-- A name with the affixes of models, joined by underscores; an empty affix is none. -/
def decorate (naming : Naming) (name : List Char) : List Char :=
  let front := (naming.modelPrefix.getD "").toList
  let back := (naming.modelSuffix.getD "").toList
  let name := if front.isEmpty then name else front ++ '_' :: name
  if back.isEmpty then name else name ++ '_' :: back

/-- Whether a character of a decorated name takes part in its words. -/
def isModelNameChar (c : Char) : Bool :=
  c.isAlphanum || c == '_' || c == '|' || c == ' '

/-- A name in Pascal case, behind the safe prefix when it is empty or clashes. -/
def className (naming : Naming) (name : List Char) : List Char :=
  let pascal := pascalCase ((naming.decorate ((reactionName? name).getD name)).filter
    isModelNameChar)
  if pascal.isEmpty || naming.clashes pascal then naming.safePrefix.toList ++ pascal else pascal

/-- The class name of a schema: the one given outright, or the one that the rules make. -/
def modelName (naming : Naming) (name : String) : String :=
  match naming.modelNames.get? name with
  | some given => given
  | none => String.ofList (naming.className name.toList)

/-! ## Fields, parameters and classes of operations -/

/-- An underscore in front of a name that clashes, and for an empty name. -/
def escapeIdentifier (naming : Naming) (name : List Char) : List Char :=
  if name.isEmpty || naming.clashes name then '_' :: name else name

/-- Whether a name starts or ends with an underscore. -/
def hasOuterUnderscore (name : List Char) : Bool :=
  name.head? == some '_' || name.getLast? == some '_'

/-- A sanitized name in a case style; a name with an outer underscore keeps its form, so that
`_id` and `id` stay apart. -/
def identifier (naming : Naming) (style : CaseStyle) (name : List Char) : List Char :=
  let sanitized := sanitize name
  if hasOuterUnderscore sanitized then sanitized
  else naming.escapeIdentifier (style.apply sanitized)

/-- The identifier of a field. -/
def fieldName (naming : Naming) (name : String) : String :=
  String.ofList (naming.identifier naming.fieldStyle name.toList)

/-- The identifier of a parameter, in camel case whatever the style of fields. -/
def parameterName (naming : Naming) (name : String) : String :=
  String.ofList (naming.identifier .camel name.toList)

/-- The class that holds the operations of a tag. -/
def apiName (naming : Naming) (tag : String) : String :=
  String.ofList (pascalCase (sanitize tag.toList)) ++ naming.apiSuffix

end Naming

/-! ## Forms of a name -/

/-- A name in every case style. -/
structure NameForms where
  original : String
  camel : String
  pascal : String
  snake : String
  small : String
deriving DecidableEq, Repr, Inhabited

/-- The forms of a name; the reaction names are spelled out first. -/
def NameForms.of (name : String) : NameForms :=
  let source := (reactionName? name.toList).getD name.toList
  { original := name
    camel := String.ofList (camelCase source)
    pascal := String.ofList (pascalCase source)
    snake := String.ofList (snakeCase source)
    small := toSmall name }

/-! ## Operation ids -/

/-- Whether a character of a path template is dropped from an operation id. -/
def isTemplateBrace (c : Char) : Bool := c == '\x7b' || c == '\x7d'

/-- The id of an operation without one: the method in small letters and the path in Pascal case. -/
def synthesizeOperationId (method path : String) : String :=
  toSmall method ++ String.ofList (pascalCase (path.toList.filter (!isTemplateBrace ·)))

end OpenApi
