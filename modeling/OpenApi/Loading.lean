import OpenApi.Document.Reading
import OpenApi.Json.Reader
import OpenApi.Yaml.Reader

/-!
# Loading a document

A document is read from JSON or YAML text, and accepted when it states version 3.

## Main definitions

* `LoadError`: why a text is no document.
* `Document.ofJson`, `Document.ofYaml`: a document from a text.
-/
namespace OpenApi

/-- Why a text is no document. -/
inductive LoadError where
  | json (fault : Fault)
  | yaml
  | unsupportedVersion (version : String)
deriving DecidableEq, Repr

namespace LoadError

/-- The wording of an error; how a text failed to decode is not worded. -/
def message : LoadError → String
  | json _ => "failed to parse JSON"
  | yaml => "failed to parse YAML"
  | unsupportedVersion version => "unsupported OpenAPI version: " ++ version

end LoadError

namespace Document

/-- Accept a document that states version 3. -/
def checkVersion (document : Document) : Except LoadError Document :=
  if document.openapi.startsWith "3." then .ok document
  else .error (.unsupportedVersion document.openapi)

/-- Read a document from JSON text. -/
def ofJson (text : String) : Except LoadError Document :=
  match decodeJson Document.read text with
  | .ok document => document.checkVersion
  | .error fault => .error (.json fault)

/-- Read a document from YAML text. -/
def ofYaml (text : String) : Except LoadError Document :=
  match decodeYaml Document.read text with
  | .ok document => document.checkVersion
  | .error _ => .error .yaml

end Document

end OpenApi
