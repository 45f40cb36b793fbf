import OpenApi.Json.Printer
import OpenApi.Yaml.Scalar
import OpenApi.Yaml.Source

/-!
# YAML text

The text of a JSON value in YAML: collections that are not empty are blocks, and lists are not
indented under their key. A text is written plainly where it reads back as that text, otherwise in
single quotes, and in double quotes where those cannot hold it. A text of several lines is a
literal block.

## Main definitions

* `styleOf`: how a text is written.
* `scalarText`: the text of a scalar.
* `Json.yaml`: the YAML text of a value.
-/
namespace OpenApi.Yaml

/-! ## Which styles can hold a text -/

/-- Whether a character is written as it is; tabs and the mark of byte order are not. -/
def isPrintable (c : Char) : Bool :=
  c == '\n' || (isAllowed c && c != '\t' && c != '\r' && c != '\u0085' && c != '\ufeff')

/-- Whether somewhere a character of one class is followed by one of another. -/
def hasPair (first second : Char → Bool) : List Char → Bool
  | a :: b :: rest => (first a && second b) || hasPair first second (b :: rest)
  | _ => false

/-- Whether a space stands in front of a line break somewhere. -/
def hasSpaceThenBreak (cs : List Char) : Bool := hasPair (· == ' ') isBreak cs

/-- Whether a line after the first starts with a space. -/
def hasBreakThenSpace (cs : List Char) : Bool := hasPair isBreak (· == ' ') cs

/-- Whether a text starts with an indicator, and so with something else than a plain scalar. -/
def startsWithIndicator : List Char → Bool
  | [] => false
  | '-' :: '-' :: '-' :: _ | '.' :: '.' :: '.' :: _ => true
  | c :: rest =>
    "#,[]\x7b\x7d&*!|>'\"%@\x60".toList.contains c ||
      (['?', ':', '-'].contains c && startsWithGap rest)

/-- Whether a colon in front of a gap, or a number sign behind one, ends a plain scalar
within a text. -/
def hasIndicator : List Char → Bool
  | a :: b :: rest =>
    (b == ':' && startsWithGap rest) || (b == '#' && isGap a) || hasIndicator (b :: rest)
  | _ => false

/-- Whether a plain scalar can hold a text, whatever value it may stand for. -/
def allowsPlain (cs : List Char) : Bool :=
  cs.all isPrintable && !cs.any isBreak && cs.head? != some ' ' && cs.getLast? != some ' ' &&
    !startsWithIndicator cs && !hasIndicator cs

/-- Whether single quotes can hold a text. -/
def allowsSingleQuotes (cs : List Char) : Bool :=
  cs.all isPrintable && !hasSpaceThenBreak cs && !hasBreakThenSpace cs

/-- Whether a literal block can hold a text. -/
def allowsLiteral (cs : List Char) : Bool :=
  cs.all isPrintable && !hasSpaceThenBreak cs && cs.getLast? != some ' '

/-- Whether a plain text stands for something else than itself, or looks like a number
that is none. -/
def isAmbiguous (text : String) : Bool :=
  match plainValue? text with
  | some (.string _) => isZeroPadded text.toList
  | _ => true

/-- The style that a text is written in. -/
def styleOf (text : String) : ScalarStyle :=
  let cs := text.toList
  if cs.contains '\n' then if allowsLiteral cs then .literal else .doubleQuoted
  else if allowsPlain cs && !isAmbiguous text then .plain
  else if allowsSingleQuotes cs then .singleQuoted
  else .doubleQuoted

/-! ## Scalars -/

/-- Spaces up to a column. -/
def indentTo (column : Nat) : List Char := List.replicate column ' '

/-- The inside of single quotes: a quote is written twice, and a line starts at a column. -/
def singleQuotedInner (column : Nat) : (newLine : Bool) → List Char → List Char
  | newLine, [] => if newLine then indentTo column else []
  | newLine, c :: rest =>
    if isBreak c then c :: singleQuotedInner column true rest
    else
      (if newLine then indentTo column else []) ++ (if c = '\'' then ['\'', '\''] else [c])
        ++ singleQuotedInner column false rest

/-- The hexadecimal digits of a number, capital letters above nine; `count` is how many. -/
def hexDigits : (count : Nat) → Nat → List Char
  | 0, _ => []
  | count + 1, n => hexDigits count (n / 16) ++ [(Json.hexDigit (n % 16)).toUpper]

/-- How double quotes write one character. -/
def doubleQuotedChar (c : Char) : List Char :=
  match c with
  | '\x00' => ['\\', '0']
  | '\x07' => ['\\', 'a']
  | '\x08' => ['\\', 'b']
  | '\t' => ['\\', 't']
  | '\n' => ['\\', 'n']
  | '\x0b' => ['\\', 'v']
  | '\x0c' => ['\\', 'f']
  | '\r' => ['\\', 'r']
  | '\x1b' => ['\\', 'e']
  | '"' => ['\\', '"']
  | '\\' => ['\\', '\\']
  | '\u0085' => ['\\', 'N']
  | '\u2028' => ['\\', 'L']
  | '\u2029' => ['\\', 'P']
  | c =>
    if isPrintable c then [c]
    else if c.toNat ≤ 0xff then '\\' :: 'x' :: hexDigits 2 c.toNat
    else if c.toNat ≤ 0xffff then '\\' :: 'u' :: hexDigits 4 c.toNat
    else '\\' :: 'U' :: hexDigits 8 c.toNat

/-- The lines of a literal block, each of which starts at a column unless it is empty. -/
def literalLines (column : Nat) : (newLine : Bool) → List Char → List Char
  | _, [] => []
  | newLine, c :: rest =>
    if isBreak c then c :: literalLines column true rest
    else (if newLine then indentTo column else []) ++ c :: literalLines column false rest

/-- How a literal block states what becomes of the breaks at its end. -/
def chompingMark (cs : List Char) : List Char :=
  match cs.reverse with
  | a :: b :: _ => if !isBreak a then ['-'] else if isBreak b then ['+'] else []
  | [a] => if isBreak a then ['+'] else ['-']
  | [] => ['-']

/-- How a literal block states that it is indented by two, which a blank in front would hide. -/
def indentationMark (cs : List Char) : List Char :=
  if cs.head?.any fun c => c == ' ' || isBreak c then ['2'] else []

/-- The text of a scalar in a block collection at an indentation. -/
def scalarText (indent : Nat) (text : String) : String :=
  let cs := text.toList
  match styleOf text with
  | .singleQuoted => String.ofList ('\'' :: singleQuotedInner (indent + 2) false cs ++ ['\''])
  | .doubleQuoted => String.ofList ('"' :: cs.flatMap doubleQuotedChar ++ ['"'])
  | .literal =>
    String.ofList ('|' :: indentationMark cs ++ chompingMark cs ++ '\n' ::
      literalLines (indent + 2) true cs)
  | _ => text

/-- Numbers from ten to the sixteenth on have an exponent without a plus sign. -/
def numberLayout : DecimalLayout := { Json.numberLayout with positiveMark := "" }

/-- The text of a value that is no block: a scalar, or an empty collection. -/
def flowText (indent : Nat) : Json → String
  | .null => "null"
  | .bool value => if value then "true" else "false"
  | .number value => Json.numberText numberLayout value
  | .string text => scalarText indent text
  | .array _ => "[]"
  | .object _ => "\x7b\x7d"

/-! ## Blocks -/

/-- Whether a value is a collection that is not empty. -/
def isBlock : Json → Bool
  | .array items => !items.isEmpty
  | .object members => !members.isEmpty
  | _ => false

/-- End the line of a text, unless the text ends it itself. -/
def endLine (text : String) : String :=
  if text.toList.getLast?.any isBreak then text else text ++ "\n"

/-- Whether a key stands on one line with its colon: it has no break and at most 128 bytes. -/
def isSimpleKey (key : String) : Bool := !key.toList.any isBreak && key.utf8ByteSize ≤ 128

/-- Lines, of which the first one starts where it stands and the others at an indentation. -/
def stack (indent : Nat) (blocks : List String) : String :=
  (String.ofList (indentTo indent)).intercalate blocks

/-- A key with its colon, up to where its value follows. -/
def keyText (indent : Nat) (key : String) : String :=
  let text := scalarText indent key
  if isSimpleKey key then text ++ ":"
  else "? " ++ endLine text ++ String.ofList (indentTo indent) ++ ":"

/-- The gap in front of the value of a key. A block starts a line behind a simple key, and a list is
not indented there. -/
def valueGap (indent : Nat) (key : String) (value : Json) : String × Nat :=
  if isBlock value && isSimpleKey key then
    let column := match value with
      | .array _ => indent
      | _ => indent + 2
    ("\n" ++ String.ofList (indentTo column), column)
  else (" ", indent + 2)

mutual

/-- The text of a value: a block with its lines at a column, or the rest of a line in a block at an
indentation. -/
def valueText (indent column : Nat) : Json → String
  | .array (item :: rest) => stack column (itemTexts column (item :: rest))
  | .object (member :: rest) => stack column (memberTexts column (member :: rest))
  | value => endLine (flowText indent value)

/-- The texts of the items of a list at an indentation. -/
def itemTexts (indent : Nat) : List Json → List String
  | [] => []
  | item :: rest => ("- " ++ valueText indent (indent + 2) item) :: itemTexts indent rest

/-- The texts of the members of an object at an indentation. -/
def memberTexts (indent : Nat) : List (String × Json) → List String
  | [] => []
  | (key, value) :: rest =>
    let (gap, column) := valueGap indent key value
    (keyText indent key ++ gap ++ valueText indent column value) :: memberTexts indent rest

end

end OpenApi.Yaml

namespace OpenApi

/-- The YAML text of a value. -/
def Json.yaml (value : Json) : String := Yaml.valueText 0 0 value

end OpenApi
