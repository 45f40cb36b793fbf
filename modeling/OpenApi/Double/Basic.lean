/-!
# Binary64 numbers

Numbers of the binary64 format as data: a sign, a whole significand and a power of two. Every
operation is computed on exact ratios of whole numbers and rounded once, to the nearest value and to
the even one of two that are equally near.

## Main definitions

* `Double`: the values of the format.
* `Double.ofRatio`: the value nearest to a ratio.
* `Double.mul`, `Double.div`, `Double.le`: arithmetic and comparison.
* `Double.ofDecimal`: the value nearest to a decimal.
-/
namespace OpenApi

/-- A power of two. -/
def twoTo (n : Nat) : Nat := Nat.pow 2 n

/-- A power of ten. -/
def tenTo (n : Nat) : Nat := Nat.pow 10 n

/-- A binary64 value. A finite one is `significand * 2 ^ exponent`, negated when `negative`; the
functions below build it with the significand below `2 ^ 53` and with the least exponent, from
`-1074` on, for which that is so. -/
inductive Double where
  | finite (negative : Bool) (significand : Nat) (exponent : Int)
  | infinite (negative : Bool)
  | nan
deriving DecidableEq, Repr, Inhabited

namespace Double

/-! ## Rounding -/

/-- The least exponent of the format. -/
def leastExponent : Int := -1074

/-- The greatest exponent of the format. -/
def greatestExponent : Int := 971

/-- Zero with a sign. -/
def zero (negative : Bool) : Double := finite negative 0 leastExponent

/-- The whole number nearest to `num / den`, the even one when two are equally near. -/
def roundRatio (num den : Nat) : Nat :=
  let whole := num / den
  let rest := 2 * (num % den)
  if rest < den then whole
  else if den < rest then whole + 1
  else whole + whole % 2

/-- A ratio divided by `2 ^ exponent`. -/
def scaleDown (num den : Nat) (exponent : Int) : Nat × Nat :=
  if 0 ≤ exponent then (num, den <<< exponent.toNat) else (num <<< (-exponent).toNat, den)

/-- The greatest `e` with `2 ^ e ≤ num / den`, for positive numbers. -/
def binaryLog (num den : Nat) : Int :=
  let guess : Int := (num.log2 : Int) - den.log2
  let scaled := scaleDown num den guess
  if scaled.2 ≤ scaled.1 then guess else guess - 1

/-- The value nearest to `num / den` with a sign. -/
def ofRatio (negative : Bool) (num den : Nat) : Double :=
  if num = 0 then zero negative
  else
    let exponent := max (binaryLog num den - 52) leastExponent
    let scaled := scaleDown num den exponent
    let rounded := roundRatio scaled.1 scaled.2
    let carried := rounded == twoTo 53
    let significand := if carried then twoTo 52 else rounded
    let exponent := if carried then exponent + 1 else exponent
    if greatestExponent < exponent then infinite negative
    else finite negative significand exponent

/-- The value nearest to a whole number. -/
def ofInt (n : Int) : Double := ofRatio (n < 0) n.natAbs 1

/-- The value nearest to `digits * 10 ^ exponent`, with a sign. Exponents far outside the range of
the format are answered without building the power. -/
def ofDecimal (negative : Bool) (digits : Nat) (exponent : Int) : Double :=
  let magnitude := exponent + digits.log2
  if digits = 0 then zero negative
  else if 2000 < magnitude then infinite negative
  else if magnitude < -4000 - 4 * (digits.log2 : Int) then zero negative
  else if 0 ≤ exponent then ofRatio negative (digits * tenTo exponent.toNat) 1
  else ofRatio negative digits (tenTo (-exponent).toNat)

/-! ## Arithmetic -/

/-- Whether a value is a number and not infinite. -/
def isFinite : Double → Bool
  | finite .. => true
  | _ => false

/-- Whether a value is a zero of either sign. -/
def isZero : Double → Bool
  | finite _ significand _ => significand == 0
  | _ => false

/-- The value with the other sign. -/
def neg : Double → Double
  | finite negative significand exponent => finite (!negative) significand exponent
  | infinite negative => infinite (!negative)
  | nan => nan

/-- The rounded product. -/
def mul : Double → Double → Double
  | finite s m e, finite t n f =>
    let scaled := scaleDown (m * n) 1 (-(e + f))
    ofRatio (s != t) scaled.1 scaled.2
  | finite s m _, infinite t | infinite t, finite s m _ =>
    if m == 0 then nan else infinite (s != t)
  | infinite s, infinite t => infinite (s != t)
  | nan, _ | _, nan => nan

/-- The rounded quotient. -/
def div : Double → Double → Double
  | finite s m e, finite t n f =>
    if n == 0 then if m == 0 then nan else infinite (s != t)
    else
      let scaled := scaleDown m n (f - e)
      ofRatio (s != t) scaled.1 scaled.2
  | finite s _ _, infinite t => zero (s != t)
  | infinite s, finite t _ _ => infinite (s != t)
  | infinite _, infinite _ => nan
  | nan, _ | _, nan => nan

/-- A significand with its sign. -/
def signed (negative : Bool) (significand : Nat) : Int :=
  if negative then -(significand : Int) else significand

/-- Whether the first value is at most the second; false beside a `nan`. -/
def le : Double → Double → Bool
  | finite s m e, finite t n f =>
    let low := min e f
    decide (signed s (m <<< (e - low).toNat) ≤ signed t (n <<< (f - low).toNat))
  | infinite true, infinite _ | infinite true, finite .. => true
  | infinite false, infinite negative => !negative
  | infinite false, finite .. => false
  | finite .., infinite negative => !negative
  | nan, _ | _, nan => false

end Double

end OpenApi
