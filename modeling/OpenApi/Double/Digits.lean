import OpenApi.Double.Basic

/-!
# Shortest decimal text

The text of a binary64 value has the fewest digits that read back as the same value, and of several
such decimals it is the nearest. How those digits are laid out is the choice of a format.

## Main definitions

* `Double.shortest`: the digits and the power of ten.
* `DecimalLayout`: what a format decides.
* `Double.toText?`: the text of a finite value in a layout.
-/
namespace OpenApi

namespace Double

/-! ## Digits -/

/-- A positive value against powers of ten. The value is `quarters / 4` units, the reals from
`quarters - below` to `quarters + 2` quarters round to it (the ends count when `closed`), and a
decimal `d * 10 ^ k` is `d * step / unit` quarters. -/
structure Grid where
  quarters : Nat
  below : Nat
  closed : Bool
  step : Nat
  unit : Nat

/-- The grid of the multiples of `10 ^ k` around `significand * 2 ^ exponent`. -/
def Grid.of (significand : Nat) (exponent k : Int) : Grid :=
  let binary := exponent - 2
  { quarters := 4 * significand
    below := if significand = twoTo 52 ∧ leastExponent < exponent then 1 else 2
    closed := significand % 2 == 0
    step := twoTo (-binary).toNat * tenTo k.toNat
    unit := twoTo binary.toNat * tenTo (-k).toNat }

/-- Whether `d` steps round to the value. -/
def Grid.readsBack (grid : Grid) (d : Nat) : Bool :=
  let low := (grid.quarters - grid.below) * grid.unit
  let high := (grid.quarters + 2) * grid.unit
  let point := d * grid.step
  if grid.closed then low ≤ point && point ≤ high else low < point && point < high

/-- The number of steps, of the two next to the value, that rounds to it; the nearer if both do, and
the even one of two equally near. -/
def Grid.hit? (grid : Grid) : Option Nat :=
  let value := grid.quarters * grid.unit
  let lower := value / grid.step
  match grid.readsBack lower, grid.readsBack (lower + 1) with
  | true, true => some (roundRatio value grid.step)
  | true, false => some lower
  | false, true => some (lower + 1)
  | false, false => none

/-- The greatest `e` with `10 ^ e ≤ significand * 2 ^ exponent`, for a positive significand. -/
def decimalLog (significand : Nat) (exponent : Int) : Int :=
  let reaches (e : Int) : Bool :=
    twoTo (-exponent).toNat * tenTo e.toNat
      ≤ significand * twoTo exponent.toNat * tenTo (-e).toNat
  let guess := (((significand.log2 : Int) + exponent) * 30103).fdiv 100000
  if reaches (guess + 1) then guess + 1 else if reaches guess then guess else guess - 1

/-- Take zeros off the end of a number; `room` bounds how many. -/
def dropZeros : Nat → Nat → Int → Nat × Int
  | 0, digits, k => (digits, k)
  | room + 1, digits, k =>
    if digits ≠ 0 ∧ digits % 10 = 0 then dropZeros room (digits / 10) (k + 1) else (digits, k)

/-- Digits `d` and a power `k` such that `d * 10 ^ k` is the shortest decimal that rounds to
`significand * 2 ^ exponent`. Seventeen digits always suffice. -/
def shortest (significand : Nat) (exponent : Int) : Nat × Int :=
  let top := decimalLog significand exponent
  let hit := (List.range 17).findSome? fun (extra : Nat) =>
    let k := top - (extra : Int)
    (Grid.of significand exponent k).hit?.map fun digits => (digits, k)
  match hit with
  | some (digits, k) => dropZeros 17 digits k
  | none => (0, 0)

/-! ## Layout -/

end Double

/-- How a format writes the digits of a number: between the two decimal exponents in positional
notation with at least one decimal, otherwise with an exponent. -/
structure DecimalLayout where
  leastPositional : Int
  greatestPositional : Int
  /-- Written in front of a positive exponent. -/
  positiveMark : String
deriving Repr

namespace Double

/-- The text of a decimal, `digits` holding its digits and `exponent` the power of ten of the
first. -/
def layOut (layout : DecimalLayout) (digits : List Char) (exponent : Int) : String :=
  if layout.leastPositional ≤ exponent ∧ exponent ≤ layout.greatestPositional then
    if exponent < 0 then
      "0." ++ String.ofList (List.replicate (-exponent - 1).toNat '0' ++ digits)
    else
      let whole := exponent.toNat + 1
      let padded := digits ++ List.replicate (whole + 1 - digits.length) '0'
      String.ofList (padded.take whole) ++ "." ++ String.ofList (padded.drop whole)
  else
    let mantissa := match digits with
      | first :: second :: rest => first :: '.' :: second :: rest
      | short => short
    let mark := if exponent < 0 then "-" else layout.positiveMark
    String.ofList mantissa ++ "e" ++ mark ++ toString exponent.natAbs

/-- The text of a finite value; `none` for the others. -/
def toText? (layout : DecimalLayout) : Double → Option String
  | finite negative significand exponent =>
    let sign := if negative then "-" else ""
    if significand = 0 then some (sign ++ layOut layout ['0'] 0)
    else
      let (digits, k) := shortest significand exponent
      let text := Nat.toDigits 10 digits
      some (sign ++ layOut layout text (k + text.length - 1))
  | _ => none

end Double

end OpenApi
