import OpenApi.Json.Basic

/-!
# Scalars of a YAML text

A scalar is a text with a style and perhaps a tag. What value it stands for is decided by the tag,
or for a plain scalar by its spelling: the empty text and the words for null, the words for truth,
whole numbers in four bases, and binary64 numbers. All else is text.

## Main definitions

* `Scalar`: a scalar as written.
* `Scalar.value?`: the value it stands for.
-/
namespace OpenApi.Yaml

/-! ## Scalars as written -/

/-- The way a scalar is written. -/
inductive ScalarStyle where
  | plain
  | singleQuoted
  | doubleQuoted
  | literal
  | folded
deriving DecidableEq, Repr, Inhabited

/-- A scalar with its content, its style and its resolved tag. -/
structure Scalar where
  text : String
  style : ScalarStyle
  tag : Option String
deriving DecidableEq, Repr, Inhabited

/-- The full name of a tag of the core schema. -/
def coreTag (name : String) : String := "tag:yaml.org,2002:" ++ name

/-! ## Words -/

/-- Whether a plain text is one of the words for null. -/
def isNullWord (text : String) : Bool := ["null", "Null", "NULL", "~"].contains text

/-- The truth value that a plain text spells. -/
def truthWord? (text : String) : Option Bool :=
  if ["true", "True", "TRUE"].contains text then some true
  else if ["false", "False", "FALSE"].contains text then some false
  else none

/-! ## Whole numbers -/

/-- The value of a digit in a base. -/
def digit? (base : Nat) (c : Char) : Option Nat :=
  let value :=
    if c.isDigit then some (c.toNat - 48)
    else if 'a' ≤ c ∧ c ≤ 'f' then some (c.toNat - 87)
    else if 'A' ≤ c ∧ c ≤ 'F' then some (c.toNat - 55)
    else none
  value.filter (· < base)

/-- The number that one or more digits spell. -/
def digits? (base : Nat) (cs : List Char) : Option Nat :=
  if cs.isEmpty then none
  else cs.foldlM (fun total c => (digit? base c).map (total * base + ·)) 0

/-- The digits behind a base mark; `none` without a mark. -/
def based? : List Char → Option (Nat × List Char)
  | '0' :: 'x' :: rest => some (16, rest)
  | '0' :: 'o' :: rest => some (8, rest)
  | '0' :: 'b' :: rest => some (2, rest)
  | _ => none

/-- Take a sign off the front. -/
def dropSign : List Char → List Char
  | '+' :: rest | '-' :: rest => rest
  | cs => cs

/-- Whether a text is a run of digits that a leading zero makes a text and no number. -/
def isZeroPadded (cs : List Char) : Bool :=
  match dropSign cs with
  | '0' :: rest => !rest.isEmpty && rest.all Char.isDigit
  | _ => false

/-- The magnitude of unsigned digits, in the base they are marked with. -/
def magnitude? (cs : List Char) : Option Nat :=
  ((based? cs).bind fun (base, rest) => digits? base rest).or (digits? 10 cs)

/-- The whole number that a plain text spells. -/
def wholeNumber? (cs : List Char) : Option Int :=
  if isZeroPadded cs then none
  else match cs with
    | '-' :: rest => (magnitude? rest).map fun n => -(n : Int)
    | '+' :: rest => (magnitude? rest).map Int.ofNat
    | _ => (magnitude? cs).map Int.ofNat

/-! ## Binary64 numbers -/

/-- The digits in front and the rest of the text. -/
def spanDigits (cs : List Char) : List Char × List Char :=
  (cs.takeWhile Char.isDigit, cs.dropWhile Char.isDigit)

/-- The exponent that a text behind the digits of a number spells; the empty text spells zero. -/
def exponent? : List Char → Option Int
  | [] => some 0
  | e :: rest =>
    if e = 'e' ∨ e = 'E' then
      (digits? 10 (dropSign rest)).map fun n => if rest.head? = some '-' then -(n : Int) else n
    else none

/-- The finite value of an unsigned decimal: digits with or without a point, and an exponent. -/
def decimal? (negative : Bool) (cs : List Char) : Option Double :=
  let (whole, rest) := spanDigits cs
  let (fraction, rest) := match rest with
    | '.' :: rest => spanDigits rest
    | _ => ([], rest)
  if whole.isEmpty && fraction.isEmpty then none
  else do
    let exponent ← exponent? rest
    let digits := (digits? 10 (whole ++ fraction)).getD 0
    let value := Double.ofDecimal negative digits (exponent - fraction.length)
    if value.isFinite then some value else none

/-- The binary64 number that a plain text spells. -/
def double? (text : String) : Option Double :=
  if [".inf", ".Inf", ".INF", "+.inf", "+.Inf", "+.INF"].contains text then
    some (.infinite false)
  else if ["-.inf", "-.Inf", "-.INF"].contains text then some (.infinite true)
  else if [".nan", ".NaN", ".NAN"].contains text then some .nan
  else match text.toList with
    | '-' :: rest => decimal? true rest
    | '+' :: rest => decimal? false rest
    | cs => decimal? false cs

/-! ## Values -/

/-- Whether a whole number fits one of the two 64-bit ranges. -/
def fitsWord (n : Int) : Bool := -(twoTo 63 : Int) ≤ n && n < twoTo 64

/-- Whether a whole number fits one of the two 128-bit ranges. -/
def fitsDoubleWord (n : Int) : Bool := -(twoTo 127 : Int) ≤ n && n < twoTo 128

/-- The value of a whole number with the sign it is written with: `none` for one that needs more
than 64 bits, and no whole number at all beyond 128 bits. -/
def wholeValue? (cs : List Char) : Option (Option Json) :=
  match wholeNumber? cs with
  | some n =>
    if fitsWord n then some (some (.int n)) else if fitsDoubleWord n then some none else none
  | none => none

/-- The value of a plain text without a tag; `none` for a whole number that is too long. -/
def plainValue? (text : String) : Option Json :=
  if text.isEmpty || isNullWord text then some .null
  else match truthWord? text with
    | some value => some (.bool value)
    | none => match wholeValue? text.toList with
      | some whole => whole
      | none =>
        if isZeroPadded text.toList then some (.string text)
        else match double? text with
          | some value => some (.number (.double value))
          | none => some (.string text)

/-- Whether a tag names a type of the application rather than of YAML. -/
def isLocalTag (tag : String) : Bool := tag.startsWith "!"

/-- The value a scalar stands for; `none` when its tag does not fit its text, when it has a local
tag, or when it is a whole number that is too long. -/
def Scalar.value? (scalar : Scalar) : Option Json :=
  match scalar.tag with
  | none => if scalar.style = .plain then plainValue? scalar.text else some (.string scalar.text)
  | some tag =>
    if isLocalTag tag then none
    else if tag = coreTag "bool" then (truthWord? scalar.text).map .bool
    else if tag = coreTag "int" then (wholeValue? scalar.text.toList).join
    else if tag = coreTag "float" then
      (double? scalar.text).map fun value => .number (.double value)
    else if tag = coreTag "null" then if isNullWord scalar.text then some .null else none
    else some (.string scalar.text)

/-- Whether a scalar stands for nothing: a plain one that is empty or a word for null. -/
def Scalar.isNull (scalar : Scalar) : Bool :=
  scalar.style = .plain && (scalar.text.isEmpty || isNullWord scalar.text)

/-- Whether a scalar is nothing written at all. -/
def Scalar.isEmpty (scalar : Scalar) : Bool := scalar.style = .plain && scalar.text.isEmpty

/-- The truth value a scalar spells where one is expected. -/
def Scalar.truth? (scalar : Scalar) : Option Bool :=
  if scalar.style = .plain || (scalar.style = .literal && scalar.tag == some (coreTag "bool")) then
    truthWord? scalar.text
  else none

end OpenApi.Yaml
