import OpenApi.Yaml.Token

/-!
# The tree of a document

The tokens of a text make one document: a tree of scalars, sequences, mappings and references to
what was anchored elsewhere. Where a key, a value or an item is left out an empty plain scalar
stands for it.

## Main definitions

* `Tree`: the trees.
* `document?`: the tree of the one document that tokens make.
-/
namespace OpenApi.Yaml

/-- A tree. A mention stands for what an anchor is put on; how it tells which one is the
parameter. -/
inductive Tree (α : Type) where
  | mention (target : α)
  | scalar (anchor : Option α) (scalar : Scalar)
  | sequence (anchor : Option α) (tag : Option String) (items : List (Tree α))
  | mapping (anchor : Option α) (tag : Option String) (entries : List (Tree α × Tree α))
deriving Inhabited

namespace Tree

/-- The scalar that stands for what is left out. -/
def blank {α : Type} : Tree α := scalar none ⟨"", .plain, none⟩

end Tree

/-! ## Tags -/

/-- The handles of a document with what they stand for. -/
abbrev Handles := List (String × String)

/-- The handles that every document has unless it states them itself. -/
def standardHandles : Handles := [("!", "!"), ("!!", coreTag "")]

/-- The full tag of a handle and a rest; none when the handle is unknown. -/
def fullTag? (handles : Handles) (handle rest : String) : Option String :=
  if handle.isEmpty then some rest else (handles.lookup handle).map (· ++ rest)

/-! ## The grammar -/

/-- Reading from the front of the tokens. -/
abbrev Grammar := StateT (List Token) Option

namespace Grammar

/-- Whether one of some tokens comes next. -/
def atOneOf (tokens : List Token) : Grammar Bool :=
  return (← get).head?.any (tokens.contains ·)

/-- Drop the next token if it is the given one, and tell whether it was. -/
def accept (token : Token) : Grammar Bool := do
  match ← get with
  | next :: rest => if next = token then set rest; return true else return false
  | [] => return false

/-- Drop the next token, which must be the given one. -/
def expect (token : Token) : Grammar Unit := do
  if ← accept token then return () else failure

/-- The anchor and the tag in front of a node, in either order. -/
def properties (handles : Handles) : Grammar (Option String × Option String) := do
  match ← get with
  | .anchor name :: .tag handle rest :: tokens =>
    set tokens
    return (some name, some (← fullTag? handles handle rest))
  | .tag handle rest :: .anchor name :: tokens =>
    set tokens
    return (some name, some (← fullTag? handles handle rest))
  | .anchor name :: tokens => set tokens; return (some name, none)
  | .tag handle rest :: tokens => set tokens; return (none, some (← fullTag? handles handle rest))
  | _ => return (none, none)

mutual

/-- A node. Blocks are allowed only outside of flow collections, and a sequence that is not indented
only as a key or a value of a block mapping. `steps` bounds the nesting of calls. -/
def node : (steps : Nat) → Handles → (inBlock inMapping : Bool) → Grammar (Tree String)
  | 0, _, _, _ => failure
  | steps + 1, handles, inBlock, inMapping => do
    match ← get with
    | .mention name :: rest => set rest; return .mention name
    | _ =>
      let (anchor, tag) ← properties handles
      let bare : Grammar (Tree String) :=
        if anchor.isSome || tag.isSome then return .scalar anchor ⟨"", .plain, tag⟩ else failure
      match ← get with
      | .scalar style text :: rest =>
        set rest
        return .scalar anchor ⟨text, style, tag.filter (· != "!")⟩
      | .flowStart .sequence :: rest =>
        set rest
        return .sequence anchor tag (← flowItems steps handles true)
      | .flowStart .mapping :: rest =>
        set rest
        return .mapping anchor tag (← flowEntries steps handles true)
      | .blockStart .sequence :: rest =>
        if inBlock then
          set rest
          return .sequence anchor tag (← blockItems steps handles)
        else bare
      | .blockStart .mapping :: rest =>
        if inBlock then
          set rest
          return .mapping anchor tag (← blockEntries steps handles)
        else bare
      | .blockItem :: _ =>
        if inMapping then return .sequence anchor tag (← plainItems steps handles) else bare
      | _ => bare

/-- The items of a block sequence, up to its end. -/
def blockItems : (steps : Nat) → Handles → Grammar (List (Tree String))
  | 0, _ => failure
  | steps + 1, handles => do
    if ← accept .blockItem then
      let item ← if ← atOneOf [.blockItem, .blockEnd] then pure .blank
        else node steps handles true false
      return item :: (← blockItems steps handles)
    else
      expect .blockEnd
      return []

/-- The items of a sequence that is not indented; the first token that marks no item ends it. -/
def plainItems : (steps : Nat) → Handles → Grammar (List (Tree String))
  | 0, _ => failure
  | steps + 1, handles => do
    if ← accept .blockItem then
      let item ← if ← atOneOf [.blockItem, .key, .value, .blockEnd] then pure .blank
        else node steps handles true false
      return item :: (← plainItems steps handles)
    else return []

/-- A key or a value of a block mapping. -/
def blockPart : (steps : Nat) → Handles → Grammar (Tree String)
  | 0, _ => failure
  | steps + 1, handles => do
    if ← atOneOf [.key, .value, .blockEnd] then return .blank else node steps handles true true

/-- The entries of a block mapping, up to its end. -/
def blockEntries : (steps : Nat) → Handles → Grammar (List (Tree String × Tree String))
  | 0, _ => failure
  | steps + 1, handles => do
    if ← accept .key then
      let key ← blockPart steps handles
      let value ← if ← accept .value then blockPart steps handles else pure .blank
      return (key, value) :: (← blockEntries steps handles)
    else
      expect .blockEnd
      return []

/-- A node of a flow collection of a kind, which may be left out. -/
def flowPart : (steps : Nat) → Handles → Kind → Grammar (Tree String)
  | 0, _, _ => failure
  | steps + 1, handles, kind => do
    if ← atOneOf [.flowItem, .flowEnd kind] then return .blank else node steps handles false false

/-- The value of an entry of a flow collection of a kind, which may be left out with its mark. -/
def flowValue : (steps : Nat) → Handles → Kind → Grammar (Tree String)
  | 0, _, _ => failure
  | steps + 1, handles, kind => do
    if ← accept .value then flowPart steps handles kind else return .blank

/-- A mapping of one entry that stands as an item behind the mark of its key. A key that is left out
takes the token in its place with it. -/
def flowPair : (steps : Nat) → Handles → Grammar (Tree String)
  | 0, _ => failure
  | steps + 1, handles => do
    let key ←
      if ← atOneOf [.value, .flowItem, .flowEnd .sequence] then do
        modify List.tail
        pure .blank
      else node steps handles false false
    return .mapping none none [(key, ← flowValue steps handles .sequence)]

/-- The items of a flow sequence, up to its end. Between two of them stands a comma, and one may
stand behind the last. -/
def flowItems : (steps : Nat) → Handles → (first : Bool) → Grammar (List (Tree String))
  | 0, _, _ => failure
  | steps + 1, handles, first => do
    if ← accept (.flowEnd .sequence) then return []
    else
      if !first then expect .flowItem
      if ← accept (.flowEnd .sequence) then return []
      else
        let item ← if ← accept .key then flowPair steps handles else node steps handles false false
        return item :: (← flowItems steps handles false)

/-- The entries of a flow mapping, up to its end. -/
def flowEntries :
    (steps : Nat) → Handles → (first : Bool) → Grammar (List (Tree String × Tree String))
  | 0, _, _ => failure
  | steps + 1, handles, first => do
    if ← accept (.flowEnd .mapping) then return []
    else
      if !first then expect .flowItem
      if ← accept (.flowEnd .mapping) then return []
      else if ← accept .key then
        let key ← if ← atOneOf [.value] then pure .blank else flowPart steps handles .mapping
        let value ← flowValue steps handles .mapping
        return (key, value) :: (← flowEntries steps handles false)
      else
        let key ← node steps handles false false
        return (key, .blank) :: (← flowEntries steps handles false)

end

/-! ## Documents -/

/-- What the directives of a document have stated. -/
structure Directives where
  versioned : Bool := false
  handles : Handles := []

/-- Take the directives in front of a document: one version, of 1.1 or 1.2, and each handle once. -/
def directives : List Token → Directives → Option (Directives × List Token)
  | .version major minor :: rest, stated =>
    if stated.versioned || major != 1 || !(minor == 1 || minor == 2) then none
    else directives rest { stated with versioned := true }
  | .handle name front :: rest, stated =>
    if (stated.handles.lookup name).isSome then none
    else directives rest { stated with handles := stated.handles ++ [(name, front)] }
  | tokens, stated => some (stated, tokens)

/-- Whether a token concerns the whole document. -/
def isOfDocument : Token → Bool
  | .version _ _ | .handle _ _ | .documentStart | .documentEnd => true
  | _ => false

/-- The document at the front of the tokens. Its start is marked where directives stand. -/
def document (steps : Nat) : Grammar (Tree String) := do
  let tokens ← get
  match tokens with
  | .version _ _ :: _ | .handle _ _ :: _ | .documentStart :: _ =>
    let (stated, rest) ← directives tokens {}
    set rest
    expect .documentStart
    if (← get).head?.all isOfDocument then return .blank
    else node steps (stated.handles ++ standardHandles) true false
  | _ => node steps standardHandles true false

end Grammar

/-- The tree of the one document that tokens make, or none when they make none at all; a failure for
tokens that make no document or more than one. -/
def document? (tokens : List Token) : Option (Option (Tree String)) :=
  if tokens.isEmpty then some none
  else match Grammar.document (2 * tokens.length + 2) tokens with
    | some (tree, rest) => if rest.all (· == .documentEnd) then some (some tree) else none
    | none => none

end OpenApi.Yaml
