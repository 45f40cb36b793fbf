import OpenApi.Dict

/-!
# Target types

The table that turns the type and format of a schema into the name of a type in the generated code,
and the formats that carry a meaning of their own.

## Main definitions

* `TypeTable`: the rows of a project, with an override that is asked first.
* `TypeTable.target`: the target of a type and format.
* `Format`: the known string formats.
-/
namespace OpenApi

/-! ## Formats -/

/-- The string formats that generated code tells apart. -/
inductive Format where
  | date
  | dateTime
  | uuid
  | uri
  | email
  | password
  | binary
  | byte
deriving DecidableEq, Repr

/-- The spelling of a format in a document. -/
def Format.name : Format → String
  | date => "date"
  | dateTime => "date-time"
  | uuid => "uuid"
  | uri => "uri"
  | email => "email"
  | password => "password"
  | binary => "binary"
  | byte => "byte"

/-- The format with a given spelling. -/
def Format.ofName? (name : String) : Option Format :=
  [date, dateTime, uuid, uri, email, password, binary, byte].find? (·.name == name)

/-! ## The table -/

/-- Rows from `type`, `format` or `type:format` to target names, and an override. -/
structure TypeTable where
  rows : Dict String
  /-- Asked before the rows, with the type and the format. -/
  override : String → Option String → Option String := fun _ _ => none

namespace TypeTable

/-- The rows that every project starts from. -/
def standardRows : Dict String :=
  Dict.ofEntries [("integer", "number"), ("number", "number"), ("boolean", "boolean"),
    ("string", "string"), ("string:date", "Date"), ("string:date-time", "Date"),
    ("string:binary", "Blob"), ("array", "Array"), ("object", "any"), ("", "any")]

/-- The standard rows, with those of a project added or put in their place. -/
def withRows (rows : Dict String) : TypeTable where
  rows := rows.entries.foldl (fun table row => table.insert row.1 row.2) standardRows

/-- The standard table. -/
def standard : TypeTable := ⟨standardRows, fun _ _ => none⟩

instance : Inhabited TypeTable := ⟨standard⟩

/-- The target of a type without the override: the row of `type:format`, then of the format, then of
the type; a type without a row names its own target. -/
def rowTarget (table : TypeTable) (type : String) (format : Option String) : String :=
  let ofFormat := format.bind fun format =>
    (table.rows.get? (type ++ ":" ++ format)).or (table.rows.get? format)
  (ofFormat.or (table.rows.get? type)).getD type

/-- The target of a type and format. -/
def target (table : TypeTable) (type : String) (format : Option String) : String :=
  (table.override type format).getD (table.rowTarget type format)

/-- The target that stands for any value. -/
def anyType (table : TypeTable) : String := table.target "" none

/-- The target of a list. -/
def arrayOf (item : String) : String := "Array<" ++ item ++ ">"

/-- The target of an open record. -/
def mapOf (value : String) : String := "\x7b [key: string]: " ++ value ++ "; \x7d"

/-- The target names that need no import. -/
def importFree : List String :=
  ["string", "number", "boolean", "any", "void", "null", "Date", "Blob"]

/-- Whether a target needs no import. -/
def isImportFree (name : String) : Bool := importFree.contains name

end TypeTable

end OpenApi
