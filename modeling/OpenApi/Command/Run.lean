import OpenApi.Command.Arguments
import OpenApi.Command.Files
import OpenApi.Loading
import OpenApi.Resolution.Document
import OpenApi.Resolved.Outline
import OpenApi.Resolved.Writing
import OpenApi.Yaml.Printer

/-!
# Running commands

A command loads the settings, then the document that they or the command line name, and goes on with
both. It stops at the first failure.

## Main definitions

* `Failure`: why a command fails.
* `Document.check`: a document with its problems and its resolved API.
* `Outcome`: what a command leaves.
* `Invocation.run`: running a command.
* `runArguments`: the reply of the program to its arguments.
-/
namespace OpenApi

namespace Command

/-! ## Failures -/

/-- Why a command fails. -/
inductive Failure where
  | settingsNotRead (path : String)
  | settingsNotParsed (path : String)
  | documentNotLoaded (path : String)
  /-- The document was rejected while it was resolved. -/
  | notResolved
  /-- Validation found errors, and the policy is strict. -/
  | invalid (errors : Nat)
  /-- The file to be written is there. -/
  | fileExists (path : String)
  | fileNotWritten (path : String)
deriving DecidableEq, Repr

/-- The wording of a failure. -/
def Failure.message : Failure → String
  | settingsNotRead path => "failed to read config " ++ path
  | settingsNotParsed path => "failed to parse config " ++ path
  | documentNotLoaded path => "failed to load " ++ path
  | notResolved => "failed to resolve spec"
  | invalid errors => "validation failed with " ++ toString errors ++ " error(s)"
  | fileExists path => path ++ " already exists. Use --force to overwrite."
  | fileNotWritten path => "failed to write " ++ path

end Command

open Command (Failure)

/-! ## Documents -/

/-- The resolved API of a document under some choices. -/
def Document.resolveWith (document : Document) (options : ResolveOptions) :
    Except Failure Resolved.Api :=
  match document.resolve options with
  | .ok api => .ok api
  | .error _ => .error .notResolved

/-- The problems of a document and its resolved API. Validation runs once: errors are counted here,
and resolution leaves validation out. -/
def Document.check (document : Document) (settings : Settings) :
    Except Failure (List Issue × Resolved.Api) := do
  let issues := document.issues
  let errors := errorCount issues
  if 0 < errors && settings.validation == .strict then throw (.invalid errors)
  let api ← document.resolveWith { ResolveOptions.ofSettings settings with skipValidation := true }
  return (issues, api)

/-- Read a document from the text of a file, in JSON if its path says so and in YAML otherwise. -/
def Document.ofFile (path text : String) : Except LoadError Document :=
  if Command.extension? path = some "json" then Document.ofJson text else Document.ofYaml text

namespace Command

/-! ## Outcomes -/

/-- What a command leaves: its output, its messages line by line, and whether it failed. -/
structure Outcome where
  output : String := ""
  messages : List String := []
  failure : Option Failure := none
deriving Repr

/-- The outcome of a step that may fail. -/
def Outcome.ofResult : Except Failure Outcome → Outcome
  | .ok outcome => outcome
  | .error failure => { failure := some failure }

/-! ## Commands on a document -/

/-- The messages about a document before it is checked. -/
def headLines (document : Document) : List String :=
  ["OpenAPI " ++ document.openapi ++ " spec: " ++ document.info.title,
    "  Version: " ++ document.info.version,
    "  Paths: " ++ toString document.paths.size]

/-- The messages about a document that was checked. -/
def resultLines (issues : List Issue) (api : Resolved.Api) : List String :=
  let errors := errorCount issues
  ["  Models: " ++ toString api.models.length,
    "  Operations: " ++ toString api.operations.length,
    "Validation finished: " ++ toString errors ++ " error(s), "
      ++ toString (issues.length - errors) ++ " warning(s)."]

/-- Report the problems of a document. -/
def validated (document : Document) (settings : Settings) : Outcome :=
  let messages := headLines document ++ document.issues.map fun issue => "  " ++ issue.text
  match document.check settings with
  | .ok (issues, api) => { messages := messages ++ resultLines issues api }
  | .error failure => { messages, failure := some failure }

/-- The text of a value in a format. -/
def Format.text : Format → Json → String
  | yaml, value => value.yaml
  | json, value => value.pretty ++ "\n"

/-- Print the resolved API of a document, or its summary. -/
def inspected (document : Document) (settings : Settings) (format : Format) (summary : Bool) :
    Except Failure Outcome := do
  let api ← document.resolveWith (.ofSettings settings)
  return { output := format.text (if summary then api.outline else api.toJson) }

/-! ## Running -/

section Running

variable {m : Type → Type} [Monad m] (files : Files m)

/-- The settings of a file; the usual ones when there is no file. -/
def loadSettings (path : String) : ExceptT Failure m Settings := do
  if !(← files.has path) then return {}
  match ← files.read path with
  | none => throw (.settingsNotRead path)
  | some text => match decodeYaml Settings.read text with
    | .ok settings => return settings
    | .error _ => throw (.settingsNotParsed path)

/-- The document of a file. -/
def loadDocument (path : String) : ExceptT Failure m Document := do
  match (← files.read path).map (Document.ofFile path) with
  | some (.ok document) => return document
  | _ => throw (.documentNotLoaded path)

/-- Write the file of settings that a project starts with; one that is there only when forced to. -/
def createSettings (path : String) (force : Bool) : ExceptT Failure m Outcome := do
  if !force && (← files.has path) then throw (.fileExists path)
  if ← files.write path Settings.template then
    return { messages := ["Created " ++ path] }
  else throw (.fileNotWritten path)

/-- Do what an invocation says. -/
def Invocation.perform (invocation : Invocation) : ExceptT Failure m Outcome := do
  let path := invocation.settingsPath
  match invocation.action with
  | .validate input strict =>
    let settings ← loadSettings files path
    let settings := if strict then { settings with validation := .strict } else settings
    let document ← loadDocument files (input.getD settings.input)
    return validated document settings
  | .inspect input format summary =>
    let settings ← loadSettings files path
    let document ← loadDocument files (input.getD settings.input)
    ExceptT.mk (pure (inspected document settings format summary))
  | .init force => createSettings files path force

/-- Run a command. -/
def Invocation.run (invocation : Invocation) : m Outcome := do
  return .ofResult (← (invocation.perform files).run)

end Running

/-! ## Replies -/

/-- What the program leaves: the number that tells a shell how it ended, its output, and the lines
of its messages. -/
structure Reply where
  exitCode : Nat := 0
  output : String := ""
  lines : List String := []
deriving Repr

/-- The reply to an outcome: the message of a failure comes last. -/
def Outcome.reply (outcome : Outcome) : Reply where
  exitCode := if outcome.failure.isSome then 1 else 0
  output := outcome.output
  lines := outcome.messages ++ (outcome.failure.map fun f => "Error: " ++ f.message).toList

/-- The name and the version of the program. -/
def versionLine : String := "oasir 0.10.0"

/-- How the program is called. -/
def usageLine : String := "usage: oasir [-c FILE] validate|inspect|init|completions [OPTIONS]"

/-- Run the program with its arguments. -/
def runArguments {m : Type → Type} [Monad m] (files : Files m) (args : List String) : m Reply :=
  match Request.ofArguments args with
  | some (.run invocation) => Outcome.reply <$> invocation.run files
  | some .version => return { output := versionLine ++ "\n" }
  | some .help => return { output := usageLine ++ "\n" }
  | some (.completions _) => return {}
  | none => return { exitCode := 2, lines := [usageLine] }

end Command

end OpenApi
