import OpenApi.Node.Basic

/-!
# Reading nodes

Readers turn nodes into values. A scalar reader takes a typed node, or a YAML scalar whose spelling
fits what is expected. A record is read from a mapping, member by member in the order of the text,
or from a sequence that lists its members.

## Main definitions

* `Node.asText`, `Node.asFlag`, `Node.asCount`, `Node.asDouble`: scalars.
* `Node.asOption`, `Node.asList`, `Node.asDict`, `Node.asChoice`: options, lists, maps and names.
* `Record`, `Record.read`: records, with the members they have.
-/
namespace OpenApi

open Yaml (coreTag isLocalTag)

namespace Node

/-! ## Scalars -/

/-- A text; a YAML scalar gives its text whatever it might stand for. -/
def asText : Node → Decoded String
  | text value => .ok value
  | scalar s => .ok s.text
  | node => .error node.unexpected

/-- A truth value. -/
def asFlag : Node → Decoded Bool
  | bool value => .ok value
  | scalar s => match s.truth? with
    | some value => .ok value
    | none => .error .shape
  | node => .error node.unexpected

/-- A whole number that is not negative. -/
def asCount : Node → Decoded Nat
  | number (.int value) => if 0 ≤ value then .ok value.toNat else .error .shape
  | node => .error node.unexpected

/-- A binary64 number; a whole number is rounded to one. -/
def asDouble : Node → Decoded Double
  | number (.int value) => .ok (.ofInt value)
  | number (.double value) => .ok value
  | node => .error node.unexpected

/-! ## Options, lists and maps -/

/-- Whether a node stands for nothing where something optional is expected. -/
def isNothing : Node → Bool
  | null | absent => true
  | scalar s => s.isNull
  | _ => false

/-- Whether a node stands for an empty collection where one is expected. -/
def isEmptyCollection : Node → Bool
  | absent => true
  | scalar s => s.isEmpty
  | _ => false

variable {α : Type}

/-- A value, or none for a null. -/
def asOption (read : Node → Decoded α) (node : Node) : Decoded (Option α) :=
  if node.isNothing then .ok none else some <$> read node

/-- The items of a sequence. -/
def asList (read : Node → Decoded α) (node : Node) : Decoded (List α) :=
  match node.content with
  | sequence items => items.mapM read
  | node => if node.isEmptyCollection then .ok [] else .error node.unexpected

/-- The entries of a mapping from texts, in the order of the text. -/
def asEntries (read : Node → Decoded α) (node : Node) : Decoded (List (String × α)) :=
  match node.content with
  | mapping entries => entries.mapM fun entry => return (← entry.1.asText, ← read entry.2)
  | node => if node.isEmptyCollection then .ok [] else .error node.unexpected

/-- A map from texts. -/
def asDict (read : Node → Decoded α) (node : Node) : Decoded (Dict α) :=
  Dict.ofEntries <$> node.asEntries read

/-! ## Names -/

/-- The choice of a name. -/
def pick (choices : List (String × α)) (name : String) : Decoded α :=
  match choices.lookup name with
  | some choice => .ok choice
  | none => .error .shape

/-- One of several names: the name itself, a local tag that spells it on an empty scalar, or a
mapping from the name to null. Where none of these starts, the text counts as malformed. -/
def asChoice (choices : List (String × α)) : Node → Decoded α
  | text name => pick choices name
  | scalar s => match s.tag with
    | some tag =>
      if isLocalTag tag then
        if s.isNull then pick choices (tag.drop 1).toString else .error .shape
      else pick choices s.text
    | none => pick choices s.text
  | mapping ((text name, value) :: rest) => do
    let choice ← pick choices name
    match value with
    | null => if rest.isEmpty then .ok choice else .error .malformed
    | value => .error value.unexpected
  | mapping ((key, _) :: _) => .error key.unexpected
  | _ => .error .malformed

end Node

/-! ## Records -/

/-- Whether a member must be there. -/
inductive Presence where
  /-- It must be there. -/
  | required
  /-- It may be missing from a mapping, but not from a sequence. -/
  | optional
  /-- It may be missing. -/
  | defaulted
deriving DecidableEq, Repr

/-- A member of a record: how its node changes the record under construction. -/
structure Member (α : Type) where
  name : String
  presence : Presence
  read : Node → α → Decoded α

/-- What a key of a mapping names. -/
inductive MemberKey where
  | name (name : String)
  /-- The position of the member in the record. -/
  | position (index : Nat)

/-- The member that a key names: a text is a name, a whole number a position. -/
def Node.asMemberKey : Node → Decoded MemberKey
  | .text value => .ok (.name value)
  | .scalar s => .ok (.name s.text)
  | .number (.int value) => if 0 ≤ value then .ok (.position value.toNat) else .error .shape
  | node => .error node.unexpected

/-- A record to be read: the value that reading starts from, its members in order, and for an open
record what becomes of a key that is no member. -/
structure Record (α : Type) where
  blank : α
  members : List (Member α)
  keep : Option (String → Json → α → α) := none

namespace Record

variable {α : Type}

/-- The member that a key stands for; the members of an open record have no positions. -/
def find? (record : Record α) : MemberKey → Option (Member α)
  | .name name => record.members.find? (·.name == name)
  | .position index => if record.keep.isNone then record.members[index]? else none

/-- Take an entry whose key is no member: skip it, or keep its value in an open record. -/
def takeOther (record : Record α) (key : MemberKey) (node : Node) (value : α) : Decoded α :=
  match record.keep with
  | none => .ok value
  | some keep => match key with
    | .name name => return keep name (← node.json) value
    | .position _ => .error .shape

/-- Read entries one after the other. `seen` are the names of the members that came before; no
member may come twice, and no required one may be missing at the end. -/
def readEntries (record : Record α) :
    List (Node × Node) → (seen : List String) → α → Decoded α
  | [], seen, value =>
    if record.members.all fun member =>
        member.presence != .required || seen.contains member.name then
      .ok value
    else .error .shape
  | (key, node) :: rest, seen, value => do
    let key ← key.asMemberKey
    match record.find? key with
    | some member =>
      if seen.contains member.name then .error .shape
      else record.readEntries rest (member.name :: seen) (← member.read node value)
    | none => record.readEntries rest seen (← record.takeOther key node value)

/-- Read the members that a sequence lists in their order; the defaulted ones at the end may be
missing. -/
def readItems : List (Member α) → List Node → α → Decoded α
  | [], [], value => .ok value
  | [], _ :: _, _ => .error .malformed
  | member :: members, [], value =>
    if (member :: members).all (·.presence == .defaulted) then .ok value else .error .shape
  | member :: members, node :: nodes, value => do
    readItems members nodes (← member.read node value)

/-- Read a record from a mapping, or from a typed sequence when it is not open. -/
def read (record : Record α) (node : Node) : Decoded α :=
  match node with
  | .mapping entries | .collection _ (.mapping entries) =>
    record.readEntries entries [] record.blank
  | .sequence items =>
    if record.keep.isNone then readItems record.members items record.blank else .error .shape
  | node =>
    if node.isEmptyCollection then record.readEntries [] [] record.blank
    else .error node.unexpected

end Record

namespace Member

variable {α β : Type}

/-- A member that must be there. -/
def required (name : String) (read : Node → Decoded β) (set : β → α → α) : Member α :=
  ⟨name, .required, fun node value => return set (← read node) value⟩

/-- A member that is none when it is missing or null. -/
def optional (name : String) (read : Node → Decoded β) (set : Option β → α → α) : Member α :=
  ⟨name, .optional, fun node value => return set (← node.asOption read) value⟩

/-- A member that keeps its blank value when it is missing. -/
def defaulted (name : String) (read : Node → Decoded β) (set : β → α → α) : Member α :=
  ⟨name, .defaulted, fun node value => return set (← read node) value⟩

end Member

end OpenApi
