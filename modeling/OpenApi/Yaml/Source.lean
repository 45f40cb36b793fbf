/-!
# The text of a YAML stream

Characters and positions. All line breaks are made one before anything is read: a carriage return, a
line feed, both together and the next-line character are each one line feed. The two Unicode
separators break a line too, and stay what they are.

## Main definitions

* `isBlank`, `isBreak`, `isNamePart`, `isAllowed`: classes of characters.
* `Position`: where a character stands.
* `source?`: the characters of a text with its line breaks made one.
-/
namespace OpenApi.Yaml

/-! ## Characters -/

/-- Whether a character is a space or a tab. -/
def isBlank (c : Char) : Bool := c == ' ' || c == '\t'

/-- Whether a character ends a line. -/
def isBreak (c : Char) : Bool := c == '\n' || c == '\u2028' || c == '\u2029'

/-- Whether a character ends a word. -/
def isGap (c : Char) : Bool := isBlank c || isBreak c

/-- Whether the text ends here or a gap follows. -/
def startsWithGap : List Char → Bool
  | [] => true
  | c :: _ => isGap c

/-- Whether a character may stand in the name of an anchor or of a tag handle. -/
def isNamePart (c : Char) : Bool := c.isAlphanum || c == '_' || c == '-'

/-- Whether a character opens, closes or separates in a flow collection. -/
def isFlowIndicator (c : Char) : Bool := [',', '[', ']', '\x7b', '\x7d'].contains c

/-- Whether a character may stand in a text at all. -/
def isAllowed (c : Char) : Bool :=
  let n := c.toNat
  n == 0x9 || n == 0xa || n == 0xd || (0x20 ≤ n && n ≤ 0x7e) || n == 0x85 ||
    (0xa0 ≤ n && n ≤ 0xfffd) || 0x10000 ≤ n

/-- Whether a line that reads `---` or `...` up to a gap starts here. -/
def isDocumentMark : List Char → Bool
  | '-' :: '-' :: '-' :: rest | '.' :: '.' :: '.' :: rest => startsWithGap rest
  | _ => false

/-! ## Line breaks -/

/-- The text with one character for each line break. -/
def unifyBreaks : List Char → List Char
  | '\r' :: '\n' :: rest => '\n' :: unifyBreaks rest
  | c :: rest => (if c = '\r' ∨ c = '\u0085' then '\n' else c) :: unifyBreaks rest
  | [] => []

/-- The characters of a text with its line breaks made one; none when a character is not allowed. -/
def source? (text : String) : Option (List Char) :=
  if text.toList.all isAllowed then some (unifyBreaks text.toList) else none

/-! ## Positions -/

/-- The place of a character: its line and its column, both from zero. -/
structure Position where
  line : Nat := 0
  column : Nat := 0
deriving DecidableEq, Repr, Inhabited

namespace Position

/-- The place behind some characters of one line. -/
def right (position : Position) (count : Nat := 1) : Position :=
  { position with column := position.column + count }

/-- The start of the line below. -/
def below (position : Position) : Position := ⟨position.line + 1, 0⟩

/-- The place behind a character. -/
def after (position : Position) (c : Char) : Position :=
  if isBreak c then position.below else position.right

end Position

end OpenApi.Yaml
