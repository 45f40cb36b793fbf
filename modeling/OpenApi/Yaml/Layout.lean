import OpenApi.Yaml.Content
import OpenApi.Yaml.Tag

/-!
# From text to tokens

The tokens of a text are read from left to right. Indentation opens and closes block collections.
That a scalar, a mention or a flow collection is a key shows only at the colon behind it, which must
stand on the same line and within 1024 characters: until then the key is pending, and at the colon
its token is put in front of what was read for it.

## Main definitions

* `Layout`: the tokens so far, the open collections and the pending keys.
* `Layout.readToken`: reading one token.
* `tokens?`: the tokens of a text.
-/
namespace OpenApi.Yaml

/-- A place where a key may have started. -/
structure PendingKey where
  /-- How many tokens come before it. -/
  index : Nat
  position : Position
  /-- Whether nothing but a key can stand there. -/
  required : Bool
deriving DecidableEq, Repr

/-- Whether a key can no longer be one when the text is read up to a place. -/
def PendingKey.isStale (key : PendingKey) (position : Position) : Bool :=
  key.position.line < position.line || key.position.column + 1024 < position.column

/-- How far a text is read. -/
structure Layout where
  rest : List Char
  position : Position := {}
  tokens : Array Token := #[]
  /-- The columns of the open block collections, innermost first. -/
  blocks : List Nat := []
  /-- The key that is pending in the innermost flow collection, or in the blocks outside of all. -/
  key : Option PendingKey := none
  /-- The keys that are pending around the open flow collections, innermost first. -/
  outer : List (Option PendingKey) := []
  /-- Whether a key may start here. -/
  keyAllowed : Bool := true

namespace Layout

/-- Whether a flow collection is open. -/
def inFlow (layout : Layout) : Bool := !layout.outer.isEmpty

/-- The least column of what belongs to the innermost block collection and is no entry of it. -/
def least (layout : Layout) : Nat :=
  match layout.blocks with
  | [] => 0
  | column :: _ => column + 1

/-! ## Steps -/

/-- Add a token. -/
def push (layout : Layout) (token : Token) : Layout :=
  { layout with tokens := layout.tokens.push token }

/-- Go on behind some characters of the line. -/
def skip (layout : Layout) (count : Nat) : Layout :=
  { layout with rest := layout.rest.drop count, position := layout.position.right count }

/-- Go on at a remainder of the text. -/
def goto (layout : Layout) (remainder : Remainder) : Layout :=
  { layout with rest := remainder.1, position := remainder.2 }

/-- Add a token of some characters and go on behind them. -/
def take (layout : Layout) (token : Token) (count : Nat) : Layout := (layout.push token).skip count

/-- State whether a key may start next. -/
def allowKey (layout : Layout) (allowed : Bool) : Layout := { layout with keyAllowed := allowed }

/-! ## Pending keys -/

/-- Give up the pending key; none when it was required. -/
def dropKey (layout : Layout) : Option Layout :=
  if layout.key.any (·.required) then none else some { layout with key := none }

/-- Let a key be pending from here, where one may start. -/
def markKey (layout : Layout) : Option Layout :=
  if layout.keyAllowed then do
    let layout ← layout.dropKey
    let required := !layout.inFlow && layout.blocks.head? == some layout.position.column
    return { layout with key := some ⟨layout.tokens.size, layout.position, required⟩ }
  else some layout

/-- Give up a key when it is stale; none when it was required. -/
def freshKey (position : Position) (key : Option PendingKey) : Option (Option PendingKey) :=
  match key with
  | some key =>
    if key.isStale position then if key.required then none else some none else some (some key)
  | none => some none

/-- Give up the stale keys. -/
def dropStaleKeys (layout : Layout) : Option Layout := do
  let key ← freshKey layout.position layout.key
  let outer ← layout.outer.mapM (freshKey layout.position)
  return { layout with key, outer }

/-! ## Block collections -/

/-- Open a block collection at a column, in front of the token at an index, unless one is open there
already; flow collections hold no blocks. -/
def openBlock (layout : Layout) (kind : Kind) (column index : Nat) : Layout :=
  if layout.inFlow || column < layout.least then layout
  else
    { layout with
      tokens := layout.tokens.insertIdxIfInBounds index (.blockStart kind)
      blocks := column :: layout.blocks }

/-- Open a block collection for an entry that starts here. -/
def openBlockHere (layout : Layout) (kind : Kind) : Layout :=
  layout.openBlock kind layout.position.column layout.tokens.size

/-- Close the block collections from a column on. -/
def closeBlocks (layout : Layout) (column : Nat) : Layout :=
  if layout.inFlow then layout
  else
    let closed := (layout.blocks.takeWhile (column ≤ ·)).length
    { layout with
      tokens := layout.tokens ++ Array.replicate closed .blockEnd
      blocks := layout.blocks.drop closed }

/-! ## Gaps -/

/-- The place behind blanks, comments and line breaks, and whether a key may start there. Tabs are
blanks only where no key may start. A mark of byte order may begin a line. -/
def skipGap (inFlow : Bool) :
    List Char → Position → (keyAllowed comment : Bool) → Remainder × Bool
  | [], position, keyAllowed, _ => (([], position), keyAllowed)
  | c :: rest, position, keyAllowed, comment =>
    if isBreak c then skipGap inFlow rest position.below (keyAllowed || !inFlow) false
    else if comment then skipGap inFlow rest position.right keyAllowed true
    else if (position.column = 0 && c = '\ufeff') || c = ' ' ||
        (c = '\t' && (inFlow || !keyAllowed)) then
      skipGap inFlow rest position.right keyAllowed false
    else if c = '#' then skipGap inFlow rest position.right keyAllowed true
    else ((c :: rest, position), keyAllowed)

/-- Go on behind the gap that starts here. -/
def dropGap (layout : Layout) : Layout :=
  let (remainder, keyAllowed) :=
    skipGap layout.inFlow layout.rest layout.position layout.keyAllowed false
  (layout.goto remainder).allowKey keyAllowed

/-! ## Tokens -/

/-- End all blocks in front of a token that concerns the whole document. -/
def endBlocks (layout : Layout) : Option Layout :=
  return (← (layout.closeBlocks 0).dropKey).allowKey false

/-- Read a directive, up to the end of its line. -/
def takeDirective (layout : Layout) : Option Layout := do
  let layout ← layout.endBlocks
  let (token, rest) ← readDirective (layout.rest.drop 1)
  let rest ← afterComment? rest
  return (layout.push token).goto (rest.drop 1, layout.position.below)

/-- Read the mark that starts or ends a document. -/
def takeDocumentMark (layout : Layout) (token : Token) : Option Layout :=
  return (← layout.endBlocks).take token 3

/-- Read the bracket that opens a flow collection. -/
def openFlow (layout : Layout) (kind : Kind) : Option Layout := do
  let layout ← layout.markKey
  let layout := { layout with key := none, outer := layout.key :: layout.outer }
  return (layout.allowKey true).take (.flowStart kind) 1

/-- Read the bracket that closes a flow collection. -/
def closeFlow (layout : Layout) (kind : Kind) : Option Layout := do
  let layout ← layout.dropKey
  let layout := match layout.outer with
    | key :: outer => { layout with key, outer }
    | [] => layout
  return (layout.allowKey false).take (.flowEnd kind) 1

/-- Read the comma of a flow collection. -/
def takeFlowItem (layout : Layout) : Option Layout :=
  return ((← layout.dropKey).allowKey true).take .flowItem 1

/-- Read the mark of an item of a block sequence. -/
def takeBlockItem (layout : Layout) : Option Layout := do
  if !layout.inFlow && !layout.keyAllowed then none
  else
    let layout ← (layout.openBlockHere .sequence).dropKey
    return (layout.allowKey true).take .blockItem 1

/-- Read the mark of a key. -/
def takeKey (layout : Layout) : Option Layout := do
  if !layout.inFlow && !layout.keyAllowed then none
  else
    let layout ← (layout.openBlockHere .mapping).dropKey
    return (layout.allowKey !layout.inFlow).take .key 1

/-- Read the colon of a value. A pending key is one from here on; otherwise the key was marked. -/
def takeValue (layout : Layout) : Option Layout :=
  match layout.key with
  | some key =>
    let tokens := layout.tokens.insertIdxIfInBounds key.index .key
    let layout := { layout with tokens, key := none }
    let layout := layout.openBlock .mapping key.position.column key.index
    some ((layout.allowKey false).take .value 1)
  | none =>
    if !layout.inFlow && !layout.keyAllowed then none
    else some (((layout.openBlockHere .mapping).allowKey !layout.inFlow).take .value 1)

/-- Read the name of an anchor or a mention. -/
def takeName (layout : Layout) (token : String → Token) : Option Layout := do
  let layout ← layout.markKey
  let cs := layout.rest.drop 1
  let name := cs.takeWhile isNamePart
  let behind := cs.dropWhile isNamePart
  let ends := startsWithGap behind || "?:,]\x7d%@\x60".toList.any (behind.head? == some ·)
  if name.isEmpty || !ends then none
  else return (layout.allowKey false).take (token (String.ofList name)) (name.length + 1)

/-- Read a tag; a gap must follow it, or in a flow collection a comma. -/
def takeTag (layout : Layout) : Option Layout := do
  let layout ← layout.markKey
  let (tag, behind) ← readTag layout.rest
  if startsWithGap behind || (layout.inFlow && behind.head? == some ',') then
    return (layout.allowKey false).take (.tag tag.handle tag.rest) tag.width
  else none

/-- Read a block scalar. -/
def takeBlockScalar (layout : Layout) (style : ScalarStyle) : Option Layout := do
  let layout ← layout.dropKey
  let (text, remainder) ←
    readBlock (style = .folded) layout.least (layout.rest.drop 1) layout.position.right
  return ((layout.allowKey true).push (.scalar style text)).goto remainder

/-- Read a quoted scalar. -/
def takeQuoted (layout : Layout) (style : ScalarStyle) : Option Layout := do
  let layout ← layout.markKey
  let read := if style = .singleQuoted then readSingleQuoted else readDoubleQuoted
  let (folding, remainder) ← read (layout.rest.drop 1) layout.position.right {}
  return ((layout.allowKey false).push (.scalar style folding.result)).goto remainder

/-- Read a plain scalar. A key may start behind it when a line was broken there. -/
def takePlain (layout : Layout) : Option Layout := do
  let layout ← layout.markKey
  let (folding, remainder) ← readPlain layout.inFlow layout.least layout.rest layout.position {}
  return ((layout.allowKey folding.broken).push (.scalar .plain folding.result)).goto remainder

/-- Whether a character is an indicator, which does not start a plain scalar as it is. -/
def isIndicator (c : Char) : Bool := "-?:,[]\x7b\x7d#&*!|>'\"%@\x60".toList.contains c

/-- Whether a plain scalar starts with a character in front of a text. -/
def startsPlain (inFlow : Bool) (c : Char) (rest : List Char) : Bool :=
  !(isGap c || isIndicator c) || (c == '-' && !rest.head?.any isBlank) ||
    (!inFlow && (c == '?' || c == ':') && !startsWithGap rest)

/-- Read the token that starts here. -/
def readToken (layout : Layout) : Option Layout :=
  match layout.rest with
  | [] => none
  | c :: rest =>
    let atStart := layout.position.column == 0
    if atStart && c == '%' then layout.takeDirective
    else if atStart && isDocumentMark (c :: rest) then
      layout.takeDocumentMark (if c = '-' then .documentStart else .documentEnd)
    else if c == '[' then layout.openFlow .sequence
    else if c == '\x7b' then layout.openFlow .mapping
    else if c == ']' then layout.closeFlow .sequence
    else if c == '\x7d' then layout.closeFlow .mapping
    else if c == ',' then layout.takeFlowItem
    else if c == '-' && startsWithGap rest then layout.takeBlockItem
    else if c == '?' && (layout.inFlow || startsWithGap rest) then layout.takeKey
    else if c == ':' && (layout.inFlow || startsWithGap rest) then layout.takeValue
    else if c == '*' then layout.takeName .mention
    else if c == '&' then layout.takeName .anchor
    else if c == '!' then layout.takeTag
    else if c == '|' && !layout.inFlow then layout.takeBlockScalar .literal
    else if c == '>' && !layout.inFlow then layout.takeBlockScalar .folded
    else if c == '\'' then layout.takeQuoted .singleQuoted
    else if c == '"' then layout.takeQuoted .doubleQuoted
    else if startsPlain layout.inFlow c rest then layout.takePlain
    else none

/-- Read the tokens up to the end of the text. Every token has a character, so that the characters
bound the number of `steps`. -/
def readTokens : (steps : Nat) → Layout → Option (List Token)
  | 0, _ => none
  | steps + 1, layout => do
    let layout ← layout.dropGap.dropStaleKeys
    let layout := layout.closeBlocks (layout.position.column + 1)
    if layout.rest.isEmpty then
      let layout ← (layout.closeBlocks 0).dropKey
      return layout.tokens.toList
    else readTokens steps (← layout.readToken)

end Layout

/-- The tokens of a text; none when it has none. -/
def tokens? (text : String) : Option (List Token) := do
  let cs ← source? text
  Layout.readTokens (cs.length + 1) { rest := cs }

end OpenApi.Yaml
