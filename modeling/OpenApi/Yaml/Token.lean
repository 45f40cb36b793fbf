import OpenApi.Yaml.Scalar

/-!
# Tokens of a YAML text

## Main definitions

* `Kind`: the two kinds of collection.
* `Token`: the tokens.
-/
namespace OpenApi.Yaml

/-- The kinds of collection. -/
inductive Kind where
  | sequence
  | mapping
deriving DecidableEq, Repr, Inhabited

/-- A token. Collections are either blocks, which indentation holds together, or flows, which
brackets hold together. -/
inductive Token where
  /-- A directive that states the version. -/
  | version (major minor : Nat)
  /-- A directive that lets a handle stand for the front of a tag. -/
  | handle (name front : String)
  | documentStart
  | documentEnd
  | blockStart (kind : Kind)
  | blockEnd
  | flowStart (kind : Kind)
  | flowEnd (kind : Kind)
  /-- The mark in front of an item of a block sequence. -/
  | blockItem
  /-- The comma between the items of a flow collection. -/
  | flowItem
  | key
  | value
  /-- The name of an anchor, standing for what is anchored. -/
  | mention (name : String)
  | anchor (name : String)
  /-- A tag: a handle and what follows it. -/
  | tag (handle rest : String)
  | scalar (style : ScalarStyle) (text : String)
deriving DecidableEq, Repr, Inhabited

end OpenApi.Yaml
