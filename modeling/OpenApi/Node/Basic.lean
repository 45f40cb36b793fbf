import OpenApi.Yaml.Scalar

/-!
# Nodes

What is read from a text, JSON or YAML, before anything is known of its meaning. Keys may be any
node and may repeat. A part of the text that no reading may use, such as a number beyond the range
of binary64, is a node of its own, which does no harm where it is skipped. A text that breaks off
leaves a node that ends with a mark for the break.

## Main definitions

* `Node`: the nodes.
* `Fault`, `Decoded`: how reading a node fails, and its result.
* `Node.typed`: a node with every scalar replaced by the value it stands for.
* `Node.json`: the JSON value of a node.
-/
namespace OpenApi

open Yaml (Scalar isLocalTag)

/-- A node of a text. -/
inductive Node where
  | null
  | bool (value : Bool)
  | number (value : Number)
  | text (value : String)
  /-- A YAML scalar whose value is not decided. -/
  | scalar (scalar : Scalar)
  | sequence (items : List Node)
  | mapping (entries : List (Node × Node))
  /-- A YAML collection that is not typed, with its tag. -/
  | collection (tag : Option String) (content : Node)
  /-- The content of an empty text. -/
  | absent
  /-- A part of the text that is well formed but cannot be used. -/
  | unreadable
  /-- The place where the text stops being well formed. -/
  | broken
deriving Inhabited

/-- Why a node was not read. -/
inductive Fault where
  /-- The text is not well formed. -/
  | malformed
  /-- The text does not have the shape that was expected. -/
  | shape
deriving DecidableEq, Repr

/-- What was read, or the first fault. -/
abbrev Decoded (α : Type) := Except Fault α

/-- What is read in two steps is read in the first and then in the second. -/
theorem Decoded.bind_eq_ok_iff {α β : Type} {first : Decoded α} {next : α → Decoded β} {value : β} :
    (first >>= next) = .ok value ↔ ∃ x, first = .ok x ∧ next x = .ok value := by
  cases first <;> simp [bind, Except.bind]

theorem Decoded.map_eq_ok_iff {α β : Type} {first : Decoded α} {f : α → β} {value : β} :
    f <$> first = .ok value ↔ ∃ x, first = .ok x ∧ f x = value := by
  cases first <;> simp [Functor.map, Except.map]

namespace Node

/-- The fault of a node that is none of the expected ones. -/
def unexpected : Node → Fault
  | unreadable | broken => .malformed
  | _ => .shape

/-- The node itself, or what a YAML collection consists of. -/
def content : Node → Node
  | collection _ inner => inner
  | node => node

/-! ## Typed nodes -/

/-- The node of a scalar value; lists and objects are not scalars. -/
def ofScalarValue : Json → Decoded Node
  | .null => .ok null
  | .bool value => .ok (bool value)
  | .number value => .ok (number value)
  | .string value => .ok (text value)
  | _ => .error .shape

mutual

/-- The node with every scalar typed; a local tag and a part that cannot be used are faults. -/
def typed : Node → Decoded Node
  | scalar s => match s.value? with
    | some value => ofScalarValue value
    | none => .error .shape
  | sequence items => return sequence (← typedItems items)
  | mapping entries => return mapping (← typedEntries entries)
  | collection tag inner => if tag.any isLocalTag then .error .shape else typed inner
  | absent => .ok null
  | unreadable | broken => .error .malformed
  | node => .ok node

/-- The items of a sequence, typed. -/
def typedItems : List Node → Decoded (List Node)
  | [] => .ok []
  | item :: rest => return (← typed item) :: (← typedItems rest)

/-- The entries of a mapping, typed. -/
def typedEntries : List (Node × Node) → Decoded (List (Node × Node))
  | [] => .ok []
  | (key, value) :: rest => return (← typed key, ← typed value) :: (← typedEntries rest)

end

/-! ## JSON values -/

mutual

/-- The JSON value of a typed node: keys are texts, a repeated key keeps its first position and its
last value, and a number that is not finite becomes `null`. -/
def jsonOfTyped : Node → Decoded Json
  | null => .ok .null
  | bool value => .ok (.bool value)
  | number (.double value) => .ok (.double value)
  | number (.int value) => .ok (.int value)
  | text value => .ok (.string value)
  | sequence items => return .array (← jsonItems items)
  | mapping entries => return .object (settle (← jsonMembers entries))
  | node => .error node.unexpected

/-- The JSON values of the items of a sequence. -/
def jsonItems : List Node → Decoded (List Json)
  | [] => .ok []
  | item :: rest => return (← jsonOfTyped item) :: (← jsonItems rest)

/-- The JSON members of the entries of a mapping. -/
def jsonMembers : List (Node × Node) → Decoded (List (String × Json))
  | [] => .ok []
  | (key, value) :: rest => do
    match key with
    | text name => return (name, ← jsonOfTyped value) :: (← jsonMembers rest)
    | key => .error key.unexpected

end

/-- The JSON value of a node. -/
def json (node : Node) : Decoded Json := node.typed >>= jsonOfTyped

mutual

/-- The node of a JSON value. -/
def ofJson : Json → Node
  | .null => null
  | .bool value => bool value
  | .number value => number value
  | .string value => text value
  | .array items => sequence (ofJsonItems items)
  | .object members => mapping (ofJsonMembers members)

/-- The nodes of the items of a list. -/
def ofJsonItems : List Json → List Node
  | [] => []
  | item :: rest => ofJson item :: ofJsonItems rest

/-- The entries of the members of an object. -/
def ofJsonMembers : List (String × Json) → List (Node × Node)
  | [] => []
  | (name, value) :: rest => (text name, ofJson value) :: ofJsonMembers rest

end

end Node

end OpenApi
