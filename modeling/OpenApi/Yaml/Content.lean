import OpenApi.Yaml.Source
import OpenApi.Yaml.Token

/-!
# The content of scalars

A scalar is read from the characters behind its opening mark. In a plain or quoted scalar a single
line break between words becomes a space, and of several the first is dropped. In a block scalar the
lines keep their breaks, or are folded in the same way when they are not indented further.

## Main definitions

* `Folding`: the text of a plain or quoted scalar so far.
* `readPlain`, `readQuoted`, `readBlock`: the three readers.
-/
namespace OpenApi.Yaml

/-! ## Folding -/

/-- The text read so far, last character first, and the gap behind it: the blanks in front of a line
break, or the breaks themselves. -/
structure Folding where
  text : List Char := []
  blanks : List Char := []
  /-- Whether a line was broken in the gap. -/
  broken : Bool := false
  /-- The first break of the gap, unless it is one that an escape hides. -/
  first : Option Char := none
  /-- The breaks behind the first. -/
  more : List Char := []
deriving Inhabited

namespace Folding

/-- Whether a gap is open. -/
def isOpen (folding : Folding) : Bool := folding.broken || !folding.blanks.isEmpty

/-- The characters that the gap stands for, last one first: the blanks of one line as they are, and
one line feed as a space. -/
def gap (folding : Folding) : List Char :=
  if folding.broken then
    match folding.first with
    | some '\n' => if folding.more.isEmpty then [' '] else folding.more
    | some c => folding.more ++ [c]
    | none => folding.more
  else folding.blanks

/-- The text with the gap closed. -/
def close (folding : Folding) : Folding := { text := folding.gap ++ folding.text }

/-- Add a character behind the gap. -/
def put (folding : Folding) (c : Char) : Folding := { text := c :: folding.close.text }

/-- Add a blank or a break to the gap. -/
def pad (folding : Folding) (c : Char) : Folding :=
  if isBreak c then
    if folding.broken then { folding with more := c :: folding.more }
    else { folding with blanks := [], broken := true, first := some c }
  else if folding.broken then folding
  else { folding with blanks := c :: folding.blanks }

/-- Break the line without a character for it. -/
def escapeBreak (folding : Folding) : Folding := { folding.close with broken := true }

/-- The text without the open gap. -/
def result (folding : Folding) : String := String.ofList folding.text.reverse

end Folding

/-- What a reader leaves: the text that follows, and where it starts. -/
abbrev Remainder := List Char × Position

/-! ## Plain scalars -/

/-- Whether a plain scalar cannot go on behind a gap: in a block it must stay right of the
collection around it, and neither a comment nor a document mark belongs to it. -/
def endsBehindGap (inFlow : Bool) (least : Nat) (position : Position) (cs : List Char) : Bool :=
  (!inFlow && position.column < least) || (position.column == 0 && isDocumentMark cs) ||
    cs.head? == some '#'

/-- Whether a plain scalar ends in front of the characters. -/
def endsPlain (inFlow : Bool) : List Char → Bool
  | [] => true
  | c :: rest => (c == ':' && startsWithGap rest) || (inFlow && isFlowIndicator c)

/-- Whether a colon runs into an indicator of the flow collection around it. -/
def isColonClash (inFlow : Bool) : List Char → Bool
  | ':' :: c :: _ => inFlow && (isFlowIndicator c || c == '?')
  | _ => false

/-- Read a plain scalar. `least` is the least column of its lines in a block. -/
def readPlain (inFlow : Bool) (least : Nat) :
    List Char → Position → Folding → Option (Folding × Remainder)
  | [], position, folding => some (folding, [], position)
  | c :: rest, position, folding =>
    if isGap c then
      if c = '\t' && folding.broken && position.column < least then none
      else readPlain inFlow least rest (position.after c) (folding.pad c)
    else if folding.isOpen && endsBehindGap inFlow least position (c :: rest) then
      some (folding, c :: rest, position)
    else if isColonClash inFlow (c :: rest) then none
    else if endsPlain inFlow (c :: rest) then some (folding, c :: rest, position)
    else readPlain inFlow least rest position.right (folding.put c)

/-! ## Quoted scalars -/

/-- The value of a hexadecimal digit. -/
def hexDigit? (c : Char) : Option Nat := digit? 16 c

/-- The number that hexadecimal digits spell. -/
def hexNumber? (cs : List Char) : Option Nat := digits? 16 cs

/-- The character with a number; none for half a character and beyond the last one. -/
def charOf? (n : Nat) : Option Char := if n.isValidChar then some (Char.ofNat n) else none

/-- The character that a letter behind a backslash stands for. -/
def escaped? (c : Char) : Option Char :=
  [('0', '\x00'), ('a', '\x07'), ('b', '\x08'), ('t', '\t'), ('\t', '\t'), ('n', '\n'),
    ('v', '\x0b'), ('f', '\x0c'), ('r', '\r'), ('e', '\x1b'), (' ', ' '), ('"', '"'), ('/', '/'),
    ('\\', '\\'), ('N', '\u0085'), ('_', '\u00a0'), ('L', '\u2028'), ('P', '\u2029')].lookup c

/-- Read the rest of a single-quoted scalar, in which a quote is written twice. -/
def readSingleQuoted : List Char → Position → Folding → Option (Folding × Remainder)
  | [], _, _ => none
  | '\'' :: '\'' :: rest, position, folding =>
    readSingleQuoted rest (position.right 2) (folding.put '\'')
  | c :: rest, position, folding =>
    if c = '\'' then some (folding.close, rest, position.right)
    else if isGap c then readSingleQuoted rest (position.after c) (folding.pad c)
    else if position.column = 0 && isDocumentMark (c :: rest) then none
    else readSingleQuoted rest position.right (folding.put c)

/-- Read the rest of a double-quoted scalar, with its escapes. -/
def readDoubleQuoted : List Char → Position → Folding → Option (Folding × Remainder)
  | [], _, _ => none
  | '\\' :: 'x' :: a :: b :: rest, position, folding => do
    let c ← (hexNumber? [a, b]).bind charOf?
    readDoubleQuoted rest (position.right 4) (folding.put c)
  | '\\' :: 'u' :: a :: b :: c :: d :: rest, position, folding => do
    let c ← (hexNumber? [a, b, c, d]).bind charOf?
    readDoubleQuoted rest (position.right 6) (folding.put c)
  | '\\' :: 'U' :: a :: b :: c :: d :: e :: f :: g :: h :: rest, position, folding => do
    let c ← (hexNumber? [a, b, c, d, e, f, g, h]).bind charOf?
    readDoubleQuoted rest (position.right 10) (folding.put c)
  | '\\' :: c :: rest, position, folding =>
    if isBreak c then readDoubleQuoted rest position.below folding.escapeBreak
    else do readDoubleQuoted rest (position.right 2) (folding.put (← escaped? c))
  | c :: rest, position, folding =>
    if c = '"' then some (folding.close, rest, position.right)
    else if isGap c then readDoubleQuoted rest (position.after c) (folding.pad c)
    else if position.column = 0 && isDocumentMark (c :: rest) then none
    else readDoubleQuoted rest position.right (folding.put c)

/-! ## Block scalars -/

/-- What becomes of the line breaks at the end of a block scalar. -/
inductive Chomping where
  /-- None is kept. -/
  | strip
  /-- The first one is kept. -/
  | clip
  /-- All are kept. -/
  | keep
deriving DecidableEq, Repr, Inhabited

/-- The chomping that an indicator stands for. -/
def chomping? : Char → Option Chomping
  | '-' => some .strip
  | '+' => some .keep
  | _ => none

/-- The columns that an indentation indicator states; zero is not allowed. -/
def indentation? (c : Char) : Option (Option Nat) :=
  if c.isDigit then some (if c = '0' then none else some (c.toNat - 48)) else none

/-- Read the indicators behind the mark of a block scalar, in either order: its chomping, and how
far it is indented when that is stated. -/
def readIndicators : List Char → Option (Chomping × Option Nat × List Char)
  | [] => some (.clip, none, [])
  | c :: rest => match chomping? c, indentation? c, rest with
    | some chomping, _, d :: rest => match indentation? d with
      | some stated => stated.map fun columns => (chomping, some columns, rest)
      | none => some (chomping, none, d :: rest)
    | some chomping, _, [] => some (chomping, none, [])
    | none, some stated, d :: rest => match chomping? d with
      | some chomping => stated.map fun columns => (chomping, some columns, rest)
      | none => stated.map fun columns => (.clip, some columns, d :: rest)
    | none, some stated, [] => stated.map fun columns => (.clip, some columns, [])
    | none, none, _ => some (.clip, none, c :: rest)

/-- The text behind blanks and a comment, which starts with a break or is empty; none when something
else stands on the line. -/
def afterComment? (cs : List Char) : Option (List Char) :=
  match cs.dropWhile isBlank with
  | '#' :: rest => some (rest.dropWhile (!isBreak ·))
  | [] => some []
  | c :: rest => if isBreak c then some (c :: rest) else none

/-- The greatest column that spaces reach on the empty lines in front of a block scalar and on its
first line; none when a tab follows them. -/
def reachedColumn? : List Char → (column greatest : Nat) → Option Nat
  | [], column, greatest => some (max column greatest)
  | c :: rest, column, greatest =>
    if c = ' ' then reachedColumn? rest (column + 1) greatest
    else if c = '\t' then none
    else if isBreak c then reachedColumn? rest 0 (max column greatest)
    else some (max column greatest)

/-- The text of a block scalar so far, last character first. -/
structure BlockText where
  text : List Char := []
  /-- The break at the end of the last line. -/
  first : Option Char := none
  /-- The breaks of the empty lines behind it. -/
  more : List Char := []
  /-- Whether the last line starts with a blank. -/
  indented : Bool := false
deriving Inhabited

namespace BlockText

/-- Start a line, with its first character. Folding makes a space of the one break between two lines
that do not start with a blank, and drops the first of several. -/
def startLine (block : BlockText) (fold : Bool) (c : Char) : BlockText :=
  let joined := fold && block.first == some '\n' && !block.indented && !isBlank c
  let first := if !joined then block.first.toList else if block.more.isEmpty then [' '] else []
  { text := c :: (block.more ++ first ++ block.text), indented := isBlank c }

/-- Add a character to the line. -/
def put (block : BlockText) (c : Char) : BlockText := { block with text := c :: block.text }

/-- The text with what chomping keeps of the breaks at its end. -/
def result (block : BlockText) (chomping : Chomping) : String :=
  let ending := match chomping with
    | .strip => []
    | .clip => block.first.toList
    | .keep => block.more ++ block.first.toList
  String.ofList (ending ++ block.text).reverse

end BlockText

/-- Read the lines of a block scalar that starts at a column. `inLine` tells whether a line is being
read. -/
def readLines (fold : Bool) (column : Nat) :
    List Char → Position → (inLine : Bool) → BlockText → Option (BlockText × Remainder)
  | [], position, _, block => some (block, [], position)
  | c :: rest, position, inLine, block =>
    if isBreak c then
      let block := if inLine then { block with first := some c }
        else { block with more := c :: block.more }
      readLines fold column rest position.below false block
    else if inLine then readLines fold column rest position.right true (block.put c)
    else if position.column < column then
      if c = ' ' then readLines fold column rest position.right false block
      else if c = '\t' then none
      else some (block, c :: rest, position)
    else readLines fold column rest position.right true (block.startLine fold c)

/-- Read the rest of a block scalar. `least` is the least column that it may start at. -/
def readBlock (fold : Bool) (least : Nat) (cs : List Char) (position : Position) :
    Option (String × Remainder) := do
  let (chomping, stated, rest) ← readIndicators cs
  let rest ← afterComment? rest
  let start := if rest.isEmpty then (rest, position.right cs.length)
    else (rest.drop 1, position.below)
  let column ← match stated with
    | some columns => some (least - 1 + columns)
    | none => do
      let reached ← reachedColumn? start.1 start.2.column 0
      some (max reached (max least 1))
  let (block, remainder) ← readLines fold column start.1 start.2 false {}
  some (block.result chomping, remainder)

end OpenApi.Yaml
