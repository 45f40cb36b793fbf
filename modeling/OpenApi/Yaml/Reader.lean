import OpenApi.Node.Basic
import OpenApi.Yaml.Layout
import OpenApi.Yaml.Tree

/-!
# Nodes of a YAML text

A text is read into the node of its one document. Anchored nodes are numbered from the start of the
text: an anchor gets the number of names anchored before it, its own among them when it comes again.
A mention of a name stands for the node that got the number of the name last. A node too deep in
others, and what comes after too many mentions, is unreadable.

## Main definitions

* `Tree.number`: a tree with numbers for the names of anchors.
* `Tree.expand`: the node of a tree, with every mention replaced.
* `Node.ofYaml?`, `decodeYaml`: reading a text.
-/
namespace OpenApi

namespace Yaml

namespace Tree

/-! ## Size -/

mutual

/-- The number of marks in the text of a tree: one for a mention or a scalar, and two for the ends
of a collection. -/
def marks {α : Type} : Tree α → Nat
  | mention _ | scalar _ _ => 1
  | sequence _ _ items => 2 + itemMarks items
  | mapping _ _ entries => 2 + entryMarks entries

/-- The number of marks of some items. -/
def itemMarks {α : Type} : List (Tree α) → Nat
  | [] => 0
  | item :: rest => marks item + itemMarks rest

/-- The number of marks of some entries. -/
def entryMarks {α : Type} : List (Tree α × Tree α) → Nat
  | [] => 0
  | (key, value) :: rest => marks key + marks value + entryMarks rest

end

/-! ## Numbers for anchors -/

/-- The numbers of the names anchored so far. -/
abbrev Numbering := StateT (List (String × Nat)) Option

/-- Give an anchor its number. -/
def numberAnchor : Option String → Numbering (Option Nat)
  | none => return none
  | some name => do
    let names ← get
    set (upsert name names.length names)
    return some names.length

mutual

/-- The tree with numbers for names; a failure for a mention of a name that was not
anchored before. -/
def number : Tree String → Numbering (Tree Nat)
  | mention name => do
    match (← get).lookup name with
    | some index => return mention index
    | none => failure
  | scalar anchor s => return scalar (← numberAnchor anchor) s
  | sequence anchor tag items => do
    let anchor ← numberAnchor anchor
    return sequence anchor tag (← numberItems items)
  | mapping anchor tag entries => do
    let anchor ← numberAnchor anchor
    return mapping anchor tag (← numberEntries entries)

/-- The items with numbers for names. -/
def numberItems : List (Tree String) → Numbering (List (Tree Nat))
  | [] => return []
  | item :: rest => do
    let item ← number item
    return item :: (← numberItems rest)

/-- The entries with numbers for names. -/
def numberEntries : List (Tree String × Tree String) → Numbering (List (Tree Nat × Tree Nat))
  | [] => return []
  | (key, value) :: rest => do
    let key ← number key
    let value ← number value
    return (key, value) :: (← numberEntries rest)

end

/-! ## What numbers stand for -/

/-- What the numbers of anchors stand for; the first entry of a number counts. -/
abbrev Anchored := List (Nat × Tree Nat)

/-- Note what an anchor stands for. -/
def note (anchor : Option Nat) (tree : Tree Nat) (found : Anchored) : Anchored :=
  match anchor with
  | some index => (index, tree) :: found
  | none => found

mutual

/-- Add the anchored nodes of a tree, the later ones in front. -/
def anchored (found : Anchored) : Tree Nat → Anchored
  | mention _ => found
  | scalar anchor s => note anchor (scalar anchor s) found
  | sequence anchor tag items =>
    anchoredItems (note anchor (sequence anchor tag items) found) items
  | mapping anchor tag entries =>
    anchoredEntries (note anchor (mapping anchor tag entries) found) entries

/-- Add the anchored nodes of some items. -/
def anchoredItems (found : Anchored) : List (Tree Nat) → Anchored
  | [] => found
  | item :: rest => anchoredItems (anchored found item) rest

/-- Add the anchored nodes of some entries. -/
def anchoredEntries (found : Anchored) : List (Tree Nat × Tree Nat) → Anchored
  | [] => found
  | (key, value) :: rest => anchoredEntries (anchored (anchored found key) value) rest

end

/-! ## Nodes -/

/-- The tree itself, or what a mention stands for; none when no more mentions may be followed. The
state is the number of those that may. -/
def target? (found : Anchored) : Tree Nat → StateM Nat (Option (Tree Nat))
  | mention index => do
    match ← get with
    | 0 => return none
    | left + 1 => set left; return found.lookup index
  | tree => return some tree

/-- The node of a tree, with every mention replaced by what it stands for. `room` is the number of
collections that may be in each other. -/
def expand (found : Anchored) : (room : Nat) → Tree Nat → StateM Nat Node
  | 0, tree => do
    match ← target? found tree with
    | some (scalar _ s) => return .scalar s
    | _ => return .unreadable
  | room + 1, tree => do
    match ← target? found tree with
    | some (scalar _ s) => return .scalar s
    | some (sequence _ tag items) =>
      return .collection tag (.sequence (← items.mapM (expand found room)))
    | some (mapping _ tag entries) =>
      let entries ← entries.mapM fun (key, value) => do
        let key ← expand found room key
        return (key, ← expand found room value)
      return .collection tag (.mapping entries)
    | _ => return .unreadable

end Tree

/-- How many collections of a text may be in each other. -/
def room : Nat := 128

/-- How many mentions may be followed for each mark of the text. -/
def mentionsPerMark : Nat := 100

end Yaml

open Yaml

/-- The node of a YAML text; none when the text is malformed or has more than one document. -/
def Node.ofYaml? (text : String) : Option Node := do
  match ← document? (← tokens? text) with
  | none => return .absent
  | some tree =>
    let (tree, _) ← tree.number []
    let (node, _) := (tree.expand (tree.anchored []) room).run (mentionsPerMark * tree.marks)
    return node

/-- Read a value from a YAML text. -/
def decodeYaml {α : Type} (read : Node → Decoded α) (text : String) : Decoded α :=
  match Node.ofYaml? text with
  | some node => read node
  | none => .error .malformed

end OpenApi
