import OpenApi.Node.Basic

/-!
# Reading JSON text

A text is read into a node from left to right, without backtracking. Where the text stops being well
formed the node ends with `Node.broken`, so that a reader of the node meets the faults of shape in
front of the break first. A number beyond the range of binary64, an escape for half a character and
a collection in too many others are well formed, and are `Node.unreadable`.

A number with a point or an exponent, or with too many digits for 64 bits, is read as up to 64 bits
of leading digits and a power of ten: both are rounded to binary64 and multiplied or divided.

## Main definitions

* `Node.readJson`: the node of a text, and whether nothing but blanks follows it.
* `decodeJson`: reading a value from a text.
* `Json.ofText?`: the JSON value of a text.
-/
namespace OpenApi.Json

/-! ## Blanks and words -/

/-- Whether a character may stand between tokens. -/
def isBlank (c : Char) : Bool := c == ' ' || c == '\n' || c == '\t' || c == '\r'

/-- The text behind its leading blanks. -/
def skipBlanks (cs : List Char) : List Char := cs.dropWhile isBlank

/-- The text behind a word that it starts with. -/
def afterWord? : List Char → List Char → Option (List Char)
  | [], cs => some cs
  | w :: word, c :: cs => if w = c then afterWord? word cs else none
  | _ :: _, [] => none

/-! ## Numbers -/

/-- The greatest number of 64 bits. -/
def greatestWord : Nat := twoTo 64 - 1

/-- Add digits to a number while it stays within 64 bits; the digits that do not fit are left. -/
def takeDigits (total : Nat) : List Char → Nat × List Char
  | [] => (total, [])
  | c :: rest =>
    let next := 10 * total + (c.toNat - 48)
    if greatestWord < next then (total, c :: rest) else takeDigits next rest

/-- The power of ten as a binary64 number. -/
def powerOfTen (n : Nat) : Double := .ofRatio false (tenTo n) 1

/-- A binary64 number times a power of ten; none beyond the range. Powers below the table of 308 are
taken in steps, and `steps` bounds them. -/
def timesPowerOfTen : (steps : Nat) → Double → Int → Option Double
  | 0, value, _ => some value
  | steps + 1, value, exponent =>
    if exponent.natAbs ≤ 308 then
      if 0 ≤ exponent then
        let product := value.mul (powerOfTen exponent.toNat)
        if product.isFinite then some product else none
      else some (value.div (powerOfTen exponent.natAbs))
    else if value.isZero then some value
    else if 0 ≤ exponent then none
    else timesPowerOfTen steps (value.div (powerOfTen 308)) (exponent + 308)

/-- A number in its parts. -/
structure NumberParts where
  negative : Bool
  whole : List Char
  /-- The digits behind the point, when there is a point. -/
  fraction : Option (List Char)
  /-- The sign and the digits of the exponent, when there is one. -/
  exponent : Option (Bool × List Char)

/-- The node of a number. -/
def NumberParts.node (parts : NumberParts) : Node :=
  let (total, left) := takeDigits 0 parts.whole
  let sign (value : Double) : Node :=
    .number (.double (if parts.negative then value.neg else value))
  if left.isEmpty && parts.fraction.isNone && parts.exponent.isNone then
    if !parts.negative then .number (.int total)
    else if total = 0 || twoTo 63 < total then sign (.ofInt total)
    else .number (.int (-(total : Int)))
  else
    let digits := parts.fraction.getD []
    let (total, skipped) := takeDigits total digits
    let scale : Int := (left.length : Int) - (digits.length - skipped.length : Nat)
    let value? := match parts.exponent with
      | none => timesPowerOfTen 4 (.ofInt total) scale
      | some (down, digits) =>
        let (exponent, more) := takeDigits 0 digits
        if more.isEmpty && exponent < twoTo 31 then
          timesPowerOfTen 4 (.ofInt total) (if down then scale - exponent else scale + exponent)
        else if total ≠ 0 && !down then none
        else some (.ofInt 0)
    match value? with
    | some value => sign value
    | none => .unreadable

/-- The digits in front of a text, and what follows them. -/
def spanDigits (cs : List Char) : List Char × List Char :=
  (cs.takeWhile Char.isDigit, cs.dropWhile Char.isDigit)

/-- Take the sign off an exponent: whether it is a minus. -/
def takeSign : List Char → Bool × List Char
  | '-' :: rest => (true, rest)
  | '+' :: rest => (false, rest)
  | rest => (false, rest)

/-- Read the digits behind a point if one stands here. -/
def readFraction : List Char → Option (List Char) × List Char
  | '.' :: rest => let (digits, rest) := spanDigits rest; (some digits, rest)
  | rest => (none, rest)

/-- Read an exponent if one stands here; none when its digits are missing. -/
def readExponent : List Char → Option (Option (Bool × List Char) × List Char)
  | c :: rest =>
    if c = 'e' ∨ c = 'E' then
      let (down, rest) := takeSign rest
      let (digits, rest) := spanDigits rest
      if digits.isEmpty then none else some (some (down, digits), rest)
    else some (none, c :: rest)
  | [] => some (none, [])

/-- Read an unsigned number. -/
def readUnsigned (negative : Bool) (cs : List Char) : Node × Option (List Char) :=
  let (whole, rest) := spanDigits cs
  let fraction := readFraction rest
  if whole.isEmpty || (whole.length != 1 && whole.head? == some '0') || fraction.1 == some [] then
    (.broken, none)
  else match readExponent fraction.2 with
    | none => (.broken, none)
    | some (exponent, rest) =>
      (NumberParts.node ⟨negative, whole, fraction.1, exponent⟩, some rest)

/-! ## Strings -/

/-- The value of four digits in base sixteen. -/
def hexWord? (digits : List Char) : Option Nat :=
  if digits.length = 4 then Yaml.digits? 16 digits else none

/-- Whether a number is the first half of a character written as two. -/
def isFirstHalf (code : Nat) : Bool := 0xD800 ≤ code && code < 0xDC00

/-- Whether a number is the second half of a character written as two. -/
def isSecondHalf (code : Nat) : Bool := 0xDC00 ≤ code && code < 0xE000

/-- The character that an escape by letter stands for. -/
def escaped? : Char → Option Char
  | '"' => some '"'
  | '\\' => some '\\'
  | '/' => some '/'
  | 'b' => some '\x08'
  | 'f' => some '\x0c'
  | 'n' => some '\n'
  | 'r' => some '\r'
  | 't' => some '\t'
  | _ => none

/-- Read a string behind its opening quote: its text, none when it holds half a character, and what
follows it, none when it breaks off. `back` holds the characters so far, last first. -/
def readString (back : List Char) (whole : Bool) :
    List Char → Option String × Option (List Char)
  | '"' :: rest =>
    (if whole then some (String.ofList back.reverse) else none, some rest)
  | '\\' :: 'u' :: a :: b :: c :: d :: rest =>
    match hexWord? [a, b, c, d] with
    | none => (none, none)
    | some code =>
      if isFirstHalf code then
        match rest with
        | '\\' :: 'u' :: e :: f :: g :: h :: more =>
          match hexWord? [e, f, g, h] with
          | none => (none, none)
          | some second =>
            if isSecondHalf second then
              let char := Char.ofNat (0x10000 + (code - 0xD800) * 0x400 + (second - 0xDC00))
              readString (char :: back) whole more
            else readString back false ('\\' :: 'u' :: e :: f :: g :: h :: more)
        | rest => readString back false rest
      else if isSecondHalf code then readString back false rest
      else readString (Char.ofNat code :: back) whole rest
  | '\\' :: c :: rest =>
    match escaped? c with
    | some char => readString (char :: back) whole rest
    | none => (none, none)
  | c :: rest =>
    if c.toNat < 32 || c = '\\' then (none, none) else readString (c :: back) whole rest
  | [] => (none, none)

/-- The node of a string that was read. -/
def stringNode : Option String × Option (List Char) → Node
  | (_, none) => .broken
  | (some value, some _) => .text value
  | (none, some _) => .unreadable

/-! ## Values -/

mutual

/-- Read a value: its node, and what follows it, none when the text breaks off. `room` is the number
of collections that may be opened here, one in the other; `fuel` bounds the length of the text. -/
def readValue : (fuel room : Nat) → List Char → Node × Option (List Char)
  | 0, _, _ => (.broken, none)
  | fuel + 1, room, cs =>
    match skipBlanks cs with
    | '\x7b' :: rest =>
      let (entries, rest) := match skipBlanks rest with
        | '\x7d' :: rest => ([], some rest)
        | rest => readMembers fuel (room - 1) rest
      (if room = 0 then .unreadable else .mapping entries, rest)
    | '[' :: rest =>
      let (items, rest) := match skipBlanks rest with
        | ']' :: rest => ([], some rest)
        | rest => readElements fuel (room - 1) rest
      (if room = 0 then .unreadable else .sequence items, rest)
    | '"' :: rest =>
      let result := readString [] true rest
      (stringNode result, result.2)
    | '-' :: rest => readUnsigned true rest
    | c :: rest =>
      if c.isDigit then readUnsigned false (c :: rest)
      else match afterWord? "null".toList (c :: rest) with
        | some rest => (.null, some rest)
        | none => match afterWord? "true".toList (c :: rest) with
          | some rest => (.bool true, some rest)
          | none => match afterWord? "false".toList (c :: rest) with
            | some rest => (.bool false, some rest)
            | none => (.broken, none)
    | [] => (.broken, none)

/-- Read the items of a list behind its bracket or behind a comma. -/
def readElements : (fuel room : Nat) → List Char → List Node × Option (List Char)
  | 0, _, _ => ([.broken], none)
  | fuel + 1, room, cs =>
    match readValue fuel room cs with
    | (item, none) => ([item, .broken], none)
    | (item, some rest) =>
      match skipBlanks rest with
      | ',' :: rest =>
        let (items, rest) := readElements fuel room rest
        (item :: items, rest)
      | ']' :: rest => ([item], some rest)
      | _ => ([item, .broken], none)

/-- Read the members of an object behind its bracket or behind a comma. -/
def readMembers : (fuel room : Nat) → List Char → List (Node × Node) × Option (List Char)
  | 0, _, _ => ([(.broken, .broken)], none)
  | fuel + 1, room, cs =>
    match skipBlanks cs with
    | '"' :: rest =>
      let key := readString [] true rest
      match key.2.map skipBlanks with
      | some (':' :: rest) =>
        match readValue fuel room rest with
        | (value, none) => ([(stringNode key, value), (.broken, .broken)], none)
        | (value, some rest) =>
          match skipBlanks rest with
          | ',' :: rest =>
            let (entries, rest) := readMembers fuel room rest
            ((stringNode key, value) :: entries, rest)
          | '\x7d' :: rest => ([(stringNode key, value)], some rest)
          | _ => ([(stringNode key, value), (.broken, .broken)], none)
      | _ => ([(.broken, .broken)], none)
    | _ => ([(.broken, .broken)], none)

end

end OpenApi.Json

namespace OpenApi

/-- The number of collections that may stand one in the other. -/
def jsonRoom : Nat := 127

/-- The node of a JSON text, and whether nothing but blanks follows it. -/
def Node.readJson (room : Nat) (text : String) : Node × Bool :=
  let cs := text.toList
  match Json.readValue (2 * cs.length + 2) room cs with
  | (node, some rest) => (node, (Json.skipBlanks rest).isEmpty)
  | (node, none) => (node, false)

/-- Read a value from a JSON text. -/
def decodeJson {α : Type} (read : Node → Decoded α) (text : String) : Decoded α := do
  let (node, complete) := Node.readJson jsonRoom text
  let value ← read node
  if complete then return value else .error .malformed

/-- The JSON value of a text; `room` bounds how deep its collections stand in each other. -/
def Json.ofText? (room : Nat) (text : String) : Option Json :=
  match Node.readJson room text with
  | (node, true) => node.json.toOption
  | (_, false) => none

end OpenApi
