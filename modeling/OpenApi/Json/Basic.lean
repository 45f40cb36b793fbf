import OpenApi.Dict
import OpenApi.Double.Basic

/-!
# JSON values

The values that a document carries without interpreting them: examples, defaults, enumerated values
and the keys that no rule knows.

## Main definitions

* `Number`: a whole number or a binary64 number.
* `Json`: a value; an object keeps the order of its members.
-/
namespace OpenApi

/-- A number, remembered as whole or not as it was written. -/
inductive Number where
  | int (value : Int)
  | double (value : Double)
deriving DecidableEq, Repr, Inhabited

/-- A JSON value. -/
inductive Json where
  | null
  | bool (value : Bool)
  | number (value : Number)
  | string (value : String)
  | array (items : List Json)
  | object (members : List (String × Json))
deriving Inhabited

namespace Json

/-- A whole number. -/
def int (value : Int) : Json := number (.int value)

/-- A binary64 number; one that is not finite has no JSON form and becomes `null`. -/
def double (value : Double) : Json :=
  if value.isFinite then number (.double value) else null

/-- The value, or `null` for none. -/
def ofOption {α : Type} (write : α → Json) : Option α → Json
  | some value => write value
  | none => null

/-- An object from a map. -/
def ofDict {α : Type} (write : α → Json) (d : Dict α) : Json :=
  object (d.entries.map fun entry => (entry.1, write entry.2))

/-- A list of texts. -/
def strings (texts : List String) : Json := array (texts.map string)

/-! ## Members of an object under construction -/

/-- A member that is always there. -/
def member (name : String) (value : Json) : List (String × Json) := [(name, value)]

/-- A member that is there when its value is. -/
def memberIf {α : Type} (name : String) (write : α → Json) : Option α → List (String × Json)
  | some value => [(name, write value)]
  | none => []

/-- A list member that is there unless it is empty. -/
def memberUnlessNil {α : Type} (name : String) (write : List α → Json) :
    List α → List (String × Json)
  | [] => []
  | items => [(name, write items)]

/-! ## Looking inside -/

/-- The value of a member; none when the value is no object or lacks it. -/
def get? (name : String) : Json → Option Json
  | object members => members.lookup name
  | _ => none

end Json

end OpenApi
