import OpenApi.Double.Digits
import OpenApi.Json.Basic

/-!
# JSON text

The two texts of a value: the compact one without any blank, and the indented one with a member or
item on a line.

## Main definitions

* `Json.compact`, `Json.pretty`: the texts.
* `Json.quote`: a text as a JSON string.
-/
namespace OpenApi.Json

/-! ## Scalars -/

/-- JSON writes small and large numbers with an exponent that always has a sign. -/
def numberLayout : DecimalLayout := ⟨-5, 15, "+"⟩

/-- The text of a number in a layout. -/
def numberText (layout : DecimalLayout) : Number → String
  | .int value => toString value
  | .double value => (value.toText? layout).getD "null"

/-- The digit of a number below sixteen, small letters above nine. -/
def hexDigit (n : Nat) : Char :=
  if n < 10 then Char.ofNat (48 + n) else Char.ofNat (87 + n)

/-- How a string writes one character: quotes, backslashes and control characters are escaped. -/
def escapeChar (c : Char) : List Char :=
  match c with
  | '"' => ['\\', '"']
  | '\\' => ['\\', '\\']
  | '\x08' => ['\\', 'b']
  | '\x0c' => ['\\', 'f']
  | '\n' => ['\\', 'n']
  | '\r' => ['\\', 'r']
  | '\t' => ['\\', 't']
  | c =>
    if c.toNat < 32 then ['\\', 'u', '0', '0', hexDigit (c.toNat / 16), hexDigit (c.toNat % 16)]
    else [c]

/-- A text in quotes. -/
def quote (text : String) : String :=
  String.ofList ('"' :: text.toList.flatMap escapeChar ++ ['"'])

/-! ## Compact text -/

mutual

/-- The text without blanks. -/
def compact : Json → String
  | null => "null"
  | bool value => if value then "true" else "false"
  | number value => numberText numberLayout value
  | string value => quote value
  | array items => "[" ++ ",".intercalate (compactItems items) ++ "]"
  | object members => "\x7b" ++ ",".intercalate (compactMembers members) ++ "\x7d"

/-- The texts of the items of a list. -/
def compactItems : List Json → List String
  | [] => []
  | item :: rest => compact item :: compactItems rest

/-- The texts of the members of an object. -/
def compactMembers : List (String × Json) → List String
  | [] => []
  | (name, value) :: rest => (quote name ++ ":" ++ compact value) :: compactMembers rest

end

/-! ## Indented text -/

/-- The start of a line at a depth of indentation. -/
def lineStart (depth : Nat) : String := String.ofList ('\n' :: List.replicate (2 * depth) ' ')

/-- Lines between two brackets, one deeper than the brackets; nothing for no line. -/
def bracketed (opening closing : String) (depth : Nat) (lines : List String) : String :=
  if lines.isEmpty then opening ++ closing
  else
    let start := lineStart (depth + 1)
    opening ++ start ++ ("," ++ start).intercalate lines ++ lineStart depth ++ closing

mutual

/-- The indented text of a value that stands at a depth. -/
def prettyAt (depth : Nat) : Json → String
  | array items => bracketed "[" "]" depth (prettyItems (depth + 1) items)
  | object members => bracketed "\x7b" "\x7d" depth (prettyMembers (depth + 1) members)
  | value => compact value

/-- The indented texts of the items of a list. -/
def prettyItems (depth : Nat) : List Json → List String
  | [] => []
  | item :: rest => prettyAt depth item :: prettyItems depth rest

/-- The indented texts of the members of an object. -/
def prettyMembers (depth : Nat) : List (String × Json) → List String
  | [] => []
  | (name, value) :: rest =>
    (quote name ++ ": " ++ prettyAt depth value) :: prettyMembers depth rest

end

/-- The indented text. -/
def pretty (value : Json) : String := prettyAt 0 value

end OpenApi.Json
