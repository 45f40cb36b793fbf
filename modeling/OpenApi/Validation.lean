import OpenApi.Reference

/-!
# Validation

The structural problems of a document: references that lead nowhere, path variables without a
parameter, operation ids that repeat, and component schemas that no operation uses.

## Main definitions

* `Issue`: a problem and where it is.
* `OperationSite`, `Document.sites`: the operations of a document with their paths and methods.
* `Document.issues`: the problems of a document.
* `Policy.rejects`: whether problems stop resolution.
-/
namespace OpenApi

/-! ## Issues -/

/-- How much a problem matters. -/
inductive Severity where
  | error
  | warning
deriving DecidableEq, Repr

/-- The spelling of a severity. -/
def Severity.name : Severity → String
  | error => "error"
  | warning => "warning"

/-- A place in a document. -/
inductive Location where
  | schema (name : String)
  | operation (method : Method) (path : String)
  | response (method : Method) (path code : String)
deriving DecidableEq, Repr

/-- The text of a place. -/
def Location.text : Location → String
  | schema name => "components.schemas." ++ name
  | operation method path => method.name ++ " " ++ path
  | response method path code => method.name ++ " " ++ path ++ " " ++ code

/-- What is wrong at a place. -/
inductive Problem where
  /-- A schema reference that names no component. -/
  | unresolvedSchema (path : String)
  /-- A reference to another component that leads nowhere. -/
  | badReference (error : ReferenceError)
  /-- A variable of the path that no path parameter names. -/
  | missingPathParameter (variableName : String)
  /-- An operation id that an operation at `first` has too. -/
  | duplicateOperationId (id : String) (first : Location)
  /-- A component schema that no operation uses. -/
  | unusedModel (name : String)
deriving DecidableEq, Repr

namespace Problem

/-- Only an unused schema is harmless. -/
def severity : Problem → Severity
  | unusedModel _ => .warning
  | _ => .error

/-- The wording of a problem. -/
def message : Problem → String
  | unresolvedSchema path => "unresolved reference `" ++ path ++ "`"
  | badReference error => error.message
  | missingPathParameter name =>
    "path variable `\x7b" ++ name ++ "\x7d` has no matching path parameter"
  | duplicateOperationId id first =>
    "duplicate operationId `" ++ id ++ "` (first declared at " ++ first.text ++ ")"
  | unusedModel name => "Unused model: " ++ name

end Problem

/-- A problem and where it is. -/
structure Issue where
  location : Location
  problem : Problem
deriving DecidableEq, Repr

namespace Issue

/-- How much an issue matters. -/
def severity (issue : Issue) : Severity := issue.problem.severity

/-- Whether an issue is an error. -/
def isError (issue : Issue) : Bool := issue.severity == .error

/-- The text of an issue. -/
def text (issue : Issue) : String :=
  issue.severity.name ++ ": " ++ issue.location.text ++ ": " ++ issue.problem.message

end Issue

/-! ## References in schemas -/

/-- Whether a path leads into the document itself. -/
def isLocalPath (path : String) : Bool := path.startsWith "#/"

/-- The paths of a discriminator that lead into the document. -/
def Discriminator.paths (d : Discriminator) : List String := d.mapping.values.filter isLocalPath

mutual

/-- Every path in a schema: those of the schemas it holds, then those of its discriminator. -/
def Schema.paths : Schema → List String
  | ⟨keywords, properties, additionalProperties, items, allOf, oneOf, anyOf⟩ =>
    propertyPaths properties
    ++ (match items with
      | some schema => schemaPaths schema
      | none => [])
    ++ (match additionalProperties with
      | some (.values schema) => schemaPaths schema
      | _ => [])
    ++ branchPaths allOf ++ branchPaths oneOf ++ branchPaths anyOf
    ++ (keywords.discriminator.map Discriminator.paths).getD []
termination_by structural schema => schema

/-- Every path in a reference or schema. -/
def schemaPaths : Referable Schema → List String
  | .reference path => [path]
  | .inline schema => schema.paths
termination_by structural schema => schema

/-- Every path in a list of schemas. -/
def branchPaths : List (Referable Schema) → List String
  | [] => []
  | schema :: rest => schemaPaths schema ++ branchPaths rest
termination_by structural schemas => schemas

/-- Every path in a map of schemas. -/
def propertyPaths : List (String × Referable Schema) → List String
  | [] => []
  | (_, schema) :: rest => schemaPaths schema ++ propertyPaths rest
termination_by structural properties => properties

end

theorem branchPaths_eq_flatMap (schemas : List (Referable Schema)) :
    branchPaths schemas = schemas.flatMap schemaPaths := by
  induction schemas with
  | nil => rfl
  | cons schema rest ih => rw [branchPaths, ih, List.flatMap_cons]

theorem propertyPaths_eq_flatMap (properties : List (String × Referable Schema)) :
    propertyPaths properties = properties.flatMap fun entry => schemaPaths entry.2 := by
  induction properties with
  | nil => rfl
  | cons entry rest ih => rw [propertyPaths, ih, List.flatMap_cons]

/-- The places at which a schema holds a path. -/
theorem Schema.mem_paths_iff {schema : Schema} {path : String} : path ∈ schema.paths ↔
    (∃ entry ∈ schema.properties, path ∈ schemaPaths entry.2)
      ∨ (∃ items, schema.items = some items ∧ path ∈ schemaPaths items)
      ∨ (∃ values, schema.additionalProperties = some (.values values) ∧ path ∈ schemaPaths values)
      ∨ (∃ branch ∈ schema.allOf ++ schema.oneOf ++ schema.anyOf, path ∈ schemaPaths branch)
      ∨ ∃ d, schema.discriminator = some d ∧ path ∈ d.paths := by
  obtain ⟨keywords, properties, additional, items, allOf, oneOf, anyOf⟩ := schema
  rcases items with _ | items <;> rcases additional with _ | (_ | _) <;>
    rcases hd : keywords.discriminator with _ | d <;>
    simp [Schema.paths, propertyPaths_eq_flatMap, branchPaths_eq_flatMap, or_and_right,
      exists_or, or_assoc, hd]

/-- Every path in an optional schema. -/
def optionalPaths (schema : Option (Referable Schema)) : List String :=
  (schema.map schemaPaths).getD []

/-- Every path in the schemas of a body. -/
def contentPaths (content : Dict MediaType) : List String :=
  content.values.flatMap fun media => optionalPaths media.schema

/-! ## Operations -/

/-- An operation with its path and method. -/
structure OperationSite where
  path : String
  item : PathItem
  method : Method
  operation : Operation

namespace OperationSite

/-- The place of an operation. -/
def location (site : OperationSite) : Location := .operation site.method site.path

/-- The operations of a path. -/
def ofItem (path : String) (item : PathItem) : List OperationSite :=
  item.operations.map fun entry => ⟨path, item, entry.1, entry.2⟩

end OperationSite

/-- The operations, in the order of the document. -/
def Document.sites (document : Document) : List OperationSite :=
  document.paths.entries.flatMap fun entry => OperationSite.ofItem entry.1 entry.2

/-! ## Path templates -/

/-- The variable that an opening brace starts: the text up to the closing brace, if that comes
before another opening one. -/
def variableAfterBrace? (rest : List Char) : Option (List Char) :=
  let segment := rest.takeWhile (· != '\x7b')
  if segment.contains '\x7d' then some (segment.takeWhile (· != '\x7d')) else none

/-- The variables of a path template. -/
def templateVariables : List Char → List (List Char)
  | [] => []
  | c :: rest =>
    if c = '\x7b' then (variableAfterBrace? rest).toList ++ templateVariables rest
    else templateVariables rest

/-! ## Checking an operation -/

/-- The failures in a list of results. -/
def failures {ε α : Type} (results : List (Except ε α)) : List ε :=
  results.filterMap fun
    | .error e => some e
    | .ok _ => none

/-- The successes in a list of results. -/
def successes {ε α : Type} (results : List (Except ε α)) : List α := results.filterMap (·.toOption)

@[simp] theorem failures_ok_cons {ε α : Type} (value : α) (results : List (Except ε α)) :
    failures (.ok value :: results) = failures results := rfl

@[simp] theorem failures_error_cons {ε α : Type} (e : ε) (results : List (Except ε α)) :
    failures (.error e :: results) = e :: failures results := rfl

theorem mem_failures_iff {ε α : Type} {results : List (Except ε α)} {e : ε} :
    e ∈ failures results ↔ .error e ∈ results := by
  induction results with
  | nil => simp [failures]
  | cons result rest ih => cases result <;> simp [ih]

theorem toOption_eq_some_iff {ε α : Type} {result : Except ε α} {value : α} :
    result.toOption = some value ↔ result = .ok value := by
  cases result <;> simp [Except.toOption]

theorem toOption_map {ε α β : Type} (f : α → β) (result : Except ε α) :
    (result.map f).toOption = result.toOption.map f := by
  cases result <;> rfl

theorem successes_map {ε α β : Type} (f : α → β) (results : List (Except ε α)) :
    successes (results.map (Except.map f)) = (successes results).map f := by
  simp only [successes, List.filterMap_map, List.map_filterMap, Function.comp_def, toOption_map]

theorem mem_successes_iff {ε α : Type} {results : List (Except ε α)} {value : α} :
    value ∈ successes results ↔ .ok value ∈ results := by
  simp [successes, toOption_eq_some_iff]

namespace OperationSite

variable (document : Document) (site : OperationSite)

/-- The parameters of the path and the operation, followed. -/
def parameters : List (Except ReferenceError Parameter) :=
  (site.item.parametersOf site.operation).map document.parameter

/-- The request body, followed. -/
def requestBody : Option (Except ReferenceError RequestBody) :=
  site.operation.requestBody.map document.requestBody

/-- The names of the parameters that stand in the path. -/
def pathParameterNames : List String :=
  ((successes (site.parameters document)).filter (·.location == .path)).map (·.name)

/-- The variables of the path that no parameter names. -/
def unmatchedVariables : List String :=
  ((templateVariables site.path.toList).map String.ofList).filter
    (!(site.pathParameterNames document).contains ·)

/-- The reference errors of a response: its own, or those of its headers. -/
def responseErrors (response : Referable Response) : List ReferenceError :=
  match document.response response with
  | .ok response => failures (response.headers.values.map document.header)
  | .error e => [e]

/-- The paths to schemas in a response and its headers. -/
def responsePaths (response : Referable Response) : List String :=
  match document.response response with
  | .ok response =>
    contentPaths response.content
      ++ (successes (response.headers.values.map document.header)).flatMap
        fun header => optionalPaths header.schema
  | .error _ => []

/-- Every path to a schema that an operation uses. -/
def usedPaths : List String :=
  (successes (site.parameters document)).flatMap (fun parameter => optionalPaths parameter.schema)
  ++ (successes (site.requestBody document).toList).flatMap (fun body => contentPaths body.content)
  ++ site.operation.responses.values.flatMap (responsePaths document)

/-- The problems of an operation by itself. -/
def issues : List Issue :=
  (failures (site.parameters document)).map (⟨site.location, .badReference ·⟩)
  ++ (site.unmatchedVariables document).map (⟨site.location, .missingPathParameter ·⟩)
  ++ (failures (site.requestBody document).toList).map (⟨site.location, .badReference ·⟩)
  ++ site.operation.responses.entries.flatMap (fun entry =>
    (responseErrors document entry.2).map
      (⟨.response site.method site.path entry.1, .badReference ·⟩))
  ++ ((site.usedPaths document).filter (!document.hasSchema ·)).map
    (⟨site.location, .unresolvedSchema ·⟩)

end OperationSite

/-- The problems of operations in turn. `seen` are the ids that came before, with their places. -/
def siteIssues (document : Document) : (seen : List (String × Location)) →
    List OperationSite → List Issue
  | _, [] => []
  | seen, site :: rest =>
    site.issues document ++
    match site.operation.operationId with
    | none => siteIssues document seen rest
    | some id =>
      match seen.lookup id with
      | some first =>
        ⟨site.location, .duplicateOperationId id first⟩ :: siteIssues document seen rest
      | none => siteIssues document ((id, site.location) :: seen) rest

/-! ## Unused schemas -/

/-- The schemas among `fresh` that no chain of references reaches from the pending paths. -/
def unreached (fresh : List (String × Referable Schema)) : (pending : List String) →
    List (String × Referable Schema)
  | [] => fresh
  | path :: pending =>
    match componentName "schemas" path with
    | .error _ => unreached fresh pending
    | .ok name =>
      match h : fresh.lookup name with
      | none => unreached fresh pending
      | some schema =>
        have _ := length_without_lt h
        unreached (without name fresh) (schemaPaths schema ++ pending)
termination_by pending => (fresh.length, pending.length)

/-- The names of the component schemas that no operation uses, in increasing order. -/
def Document.unusedSchemas (document : Document) : List String :=
  let used := document.sites.flatMap (·.usedPaths document)
  (sortOn Prod.fst (unreached document.schemas.entries used)).map Prod.fst

/-! ## The whole document -/

/-- The references of a component schema that name no component. -/
def schemaIssues (document : Document) (name : String) (schema : Referable Schema) : List Issue :=
  ((schemaPaths schema).filter (!document.hasSchema ·)).map (⟨.schema name, .unresolvedSchema ·⟩)

/-- The problems of a document: those of its component schemas, those of its operations, and the
schemas that are not used. -/
def Document.issues (document : Document) : List Issue :=
  document.schemas.entries.flatMap (fun entry => schemaIssues document entry.1 entry.2)
  ++ siteIssues document [] document.sites
  ++ document.unusedSchemas.map fun name => ⟨.schema name, .unusedModel name⟩

/-! ## Policies -/

/-- What errors do to resolution. -/
inductive Policy where
  /-- They stop it. -/
  | strict
  /-- They are reported, and resolution goes on. -/
  | lenient
deriving DecidableEq, Repr, Inhabited

/-- Whether a policy stops resolution for these issues. -/
def Policy.rejects (policy : Policy) (issues : List Issue) : Bool :=
  policy == .strict && issues.any Issue.isError

/-- The number of errors among issues. -/
def errorCount (issues : List Issue) : Nat := issues.countP Issue.isError

end OpenApi
