import OpenApi.Validation

/-!
# Notices

What resolution reports while it goes on: the problems of the document, the parts it leaves out, and
the choices a reader may not expect.

## Main definitions

* `Notice`: a report.
* `Notice.level`, `Notice.text`: its record in a log.
-/
namespace OpenApi

/-- How much a report matters. -/
inductive Level where
  | warn
  | debug
deriving DecidableEq, Repr

/-- The spelling of a level. -/
def Level.name : Level → String
  | warn => "WARN"
  | debug => "DEBUG"

/-- A part of an operation that is left out because its reference leads nowhere. -/
inductive SkippedPart where
  | parameter
  | requestBody
  | response (code : String)
  | header (name code : String)
deriving DecidableEq, Repr

/-- The text of a part. -/
def SkippedPart.text : SkippedPart → String
  | parameter => "parameter"
  | requestBody => "request body"
  | response code => "response " ++ code
  | header name code => "header " ++ name ++ " of response " ++ code

/-- A report of resolution. -/
inductive Notice where
  | issue (found : Issue)
  /-- A component schema whose chain of references leads nowhere. -/
  | untypedSchema (name : String) (error : ReferenceError)
  /-- A part of an operation that is left out. -/
  | skipped (location : Location) (part : SkippedPart) (error : ReferenceError)
  /-- An operation whose id another operation of its group has. -/
  | renamedOperation (id : String) (location : Location) (renamed : String)
  /-- A property that a schema and one of its branches declare. -/
  | duplicateProperty (model property : String)
  /-- A parameter that comes again under the same identifier. -/
  | replacedParameter (operation parameter : String)
  /-- An inline object, which is not made a model. -/
  | inlineObject (name : String)
  /-- An inline union, which is not made a model. -/
  | inlineUnion (name : String)
  | resolvedModels (count : Nat)
  | resolvedOperations (count : Nat)
deriving DecidableEq, Repr

namespace Notice

/-- How much a report matters: what changes the result is a warning. -/
def level : Notice → Level
  | issue _ | untypedSchema .. | skipped .. | renamedOperation .. => .warn
  | _ => .debug

/-- The text of a report. -/
def text : Notice → String
  | issue found => found.text
  | untypedSchema name error =>
    "schema `" ++ name ++ "` treated as untyped: " ++ error.message
  | skipped location part error =>
    location.text ++ ": skipping " ++ part.text ++ ": " ++ error.message
  | renamedOperation id location renamed =>
    "duplicate operationId `" ++ id ++ "` at " ++ location.text ++ " renamed to `" ++ renamed ++ "`"
  | duplicateProperty model property =>
    model ++ ": duplicate property `" ++ property ++ "` ignored"
  | replacedParameter operation parameter =>
    operation ++ ": parameter `" ++ parameter ++ "` replaces an earlier one with the same name"
  | inlineObject name => "inline object `" ++ name ++ "` resolved as free-form"
  | inlineUnion name => "inline composition for `" ++ name ++ "` resolved as any"
  | resolvedModels count => "resolved " ++ toString count ++ " models"
  | resolvedOperations count => "resolved " ++ toString count ++ " operations"

end Notice

end OpenApi
