import Mathlib.Algebra.Order.Ring.Nat
import OpenApi.Json.Reader
import OpenApi.Proofs.PlainNodes

/-!
# Numbers that are read are finite

A number of a JSON text is read as a whole number of 64 bits, or as a binary64 number: leading
digits are rounded, and multiplied or divided by a power of ten. A product beyond the range is
refused. A quotient cannot leave the range, since the divisor is a power of ten that is at least
ten. The bound that carries this is on the binary order of a value, its exponent plus the order of
its significand.

## Main definitions

* `Double.order`: the greatest power of two in a finite value.

## Main statements

* `Double.isFinite_ofRatio`: a ratio of small enough order is rounded to a finite value.
* `plain_node`: the node of a number is plain.
-/
namespace OpenApi

namespace Double

/-! ## Orders of ratios -/

theorem log2_shiftLeft {n : Nat} (hn : n ≠ 0) (places : Nat) :
    (n <<< places).log2 = n.log2 + places := by
  have hpos : 0 < 2 ^ places := Nat.two_pow_pos places
  rw [Nat.shiftLeft_eq, Nat.log2_eq_iff (Nat.mul_ne_zero hn hpos.ne'), Nat.pow_add]
  constructor
  · exact Nat.mul_le_mul_right _ (Nat.log2_self_le hn)
  · calc n * 2 ^ places < 2 ^ (n.log2 + 1) * 2 ^ places :=
          Nat.mul_lt_mul_of_pos_right Nat.lt_log2_self hpos
      _ = 2 ^ (n.log2 + places + 1) := by rw [← Nat.pow_add]; congr 1; omega

/-- Scaling moves the order of a ratio by the exponent. -/
theorem log2_scaleDown {num den : Nat} (hnum : num ≠ 0) (hden : den ≠ 0) (exponent : Int) :
    ((scaleDown num den exponent).1.log2 : Int) - (scaleDown num den exponent).2.log2
      = num.log2 - den.log2 - exponent := by
  unfold scaleDown
  split
  · dsimp only
    rw [log2_shiftLeft hden]
    omega
  · dsimp only
    rw [log2_shiftLeft hnum]
    omega

theorem scaleDown_snd_ne_zero {num den : Nat} (hden : den ≠ 0) (exponent : Int) :
    (scaleDown num den exponent).2 ≠ 0 := by
  unfold scaleDown
  split
  · simpa [Nat.shiftLeft_eq] using hden
  · exact hden

theorem binaryLog_le (num den : Nat) : binaryLog num den ≤ num.log2 - den.log2 := by
  unfold binaryLog
  dsimp only
  split <;> omega

theorem le_binaryLog (num den : Nat) : (num.log2 : Int) - den.log2 - 1 ≤ binaryLog num den := by
  unfold binaryLog
  dsimp only
  split <;> omega

/-- A ratio whose order is small is rounded to a small number. -/
theorem roundRatio_le {num den : Nat} (hden : den ≠ 0) {places : Nat}
    (h : num.log2 ≤ den.log2 + places) : roundRatio num den ≤ 2 ^ (places + 1) := by
  have hnum : num < den * 2 ^ (places + 1) := by
    calc num < 2 ^ (num.log2 + 1) := Nat.lt_log2_self
      _ ≤ 2 ^ (den.log2 + (places + 1)) := Nat.pow_le_pow_right (by omega) (by omega)
      _ = 2 ^ den.log2 * 2 ^ (places + 1) := Nat.pow_add ..
      _ ≤ den * 2 ^ (places + 1) := Nat.mul_le_mul_right _ (Nat.log2_self_le hden)
  have hwhole : num / den < 2 ^ (places + 1) := Nat.div_lt_of_lt_mul hnum
  unfold roundRatio
  dsimp only
  split
  · omega
  · split <;> omega

/-! ## Rounding -/

/-- The greatest power of two in a finite value. -/
def order : Double → Int
  | finite _ significand exponent => significand.log2 + exponent
  | _ => 0

/-- A value that is finite and whose order is hardly greater than the greatest of the format, so
that a quotient by ten cannot leave the format. -/
structure Bounded (x : Double) : Prop where
  isFinite : x.isFinite = true
  order_le : x.order ≤ 1025

theorem bounded_zero (negative : Bool) : (zero negative).Bounded :=
  ⟨rfl, (by decide : (0 : Int) + leastExponent ≤ 1025)⟩

/-- **A ratio of small enough order** is rounded to a finite value. -/
theorem isFinite_ofRatio {num den : Nat} (h : (num.log2 : Int) - den.log2 ≤ 1022)
    (negative : Bool) : (ofRatio negative num den).isFinite = true := by
  have hlog := binaryLog_le num den
  unfold ofRatio
  split
  · rfl
  · dsimp only
    rw [if_neg]
    · rfl
    · unfold greatestExponent leastExponent
      split <;> omega

/-- The significand of a rounded ratio has hardly more than its 53 places. -/
theorem roundRatio_scaleDown_le {num den : Nat} (hnum : num ≠ 0) (hden : den ≠ 0) {exponent : Int}
    (h : binaryLog num den - 52 ≤ exponent) :
    roundRatio (scaleDown num den exponent).1 (scaleDown num den exponent).2 ≤ 2 ^ 54 := by
  have hlow := le_binaryLog num den
  have hscaled := log2_scaleDown hnum hden exponent
  exact roundRatio_le (scaleDown_snd_ne_zero hden exponent) (by omega)

theorem order_ofRatio_le {num den : Nat} (hden : den ≠ 0) (negative : Bool) :
    (ofRatio negative num den).order ≤ 1025 := by
  unfold ofRatio
  by_cases hnum : num = 0
  · rw [if_pos hnum]
    exact (bounded_zero negative).order_le
  · rw [if_neg hnum]
    dsimp only
    have hrounded := roundRatio_scaleDown_le hnum hden
      (le_max_left (binaryLog num den - 52) leastExponent)
    set exponent := max (binaryLog num den - 52) leastExponent
    set rounded := roundRatio (scaleDown num den exponent).1 (scaleDown num den exponent).2
    have hlog : (if (rounded == twoTo 53) = true then twoTo 52 else rounded).log2 < 55 := by
      split
      · decide
      · by_cases hzero : rounded = 0
        · rw [hzero]
          decide
        · exact (Nat.log2_lt hzero).2 (by omega)
    generalize (if (rounded == twoTo 53) = true then twoTo 52 else rounded) = significand at hlog ⊢
    generalize (if (rounded == twoTo 53) = true then exponent + 1 else exponent) = shifted
    split
    · exact (by decide : (0 : Int) ≤ 1025)
    · rename_i hle
      rw [not_lt, greatestExponent] at hle
      rw [order]
      omega

theorem bounded_ofRatio {num den : Nat} (hden : den ≠ 0)
    (h : (num.log2 : Int) - den.log2 ≤ 1022) (negative : Bool) :
    (ofRatio negative num den).Bounded :=
  ⟨isFinite_ofRatio h negative, order_ofRatio_le hden negative⟩

/-- A whole number of 64 bits is rounded to a finite value. -/
theorem bounded_ofInt {value : Int} (h : value.natAbs < 2 ^ 65) : (ofInt value).Bounded := by
  refine bounded_ofRatio one_ne_zero ?_ _
  by_cases hzero : value.natAbs = 0
  · rw [hzero]
    decide
  · have := (Nat.log2_lt hzero).2 h
    omega

/-! ## Quotients -/

/-- **A quotient by a value of order three or more** stays in the format. -/
theorem Bounded.div {x y : Double} (hx : x.Bounded) (hy : y.isFinite = true)
    (hnonzero : y.isZero = false) (horder : 3 ≤ y.order) : (x.div y).Bounded := by
  cases x with
  | finite s m e =>
    cases y with
    | finite t n f =>
      have hn : n ≠ 0 := by simpa [isZero] using hnonzero
      have hxorder := hx.order_le
      dsimp only [order] at hxorder horder
      rw [Double.div, if_neg (by simpa using hn)]
      refine bounded_ofRatio (scaleDown_snd_ne_zero hn _) ?_ _
      by_cases hm : m = 0
      · have hzero : (scaleDown m n (f - e)).1 = 0 := by
          unfold scaleDown
          split <;> simp [hm]
        rw [hzero]
        exact (by omega : (0 : Int) - ((scaleDown m n (f - e)).2.log2 : Int) ≤ 1022)
      · rw [log2_scaleDown hm hn]
        omega
    | infinite => cases hy
    | nan => cases hy
  | infinite => cases hx.isFinite
  | nan => cases hx.isFinite

theorem isFinite_neg (x : Double) : x.neg.isFinite = x.isFinite := by
  cases x <;> rfl

end Double

namespace Json

/-! ## Powers of ten -/

/-- The powers of ten of the table, one aside, are finite values of order three or more. -/
theorem powerOfTen_spec : ∀ n ≤ 308, n ≠ 0 → (powerOfTen n).isFinite = true
    ∧ (powerOfTen n).isZero = false ∧ 3 ≤ (powerOfTen n).order := by
  decide +kernel

theorem bounded_div_powerOfTen {x : Double} (hx : x.Bounded) {n : Nat} (hn : n ≤ 308)
    (hpos : n ≠ 0) : (x.div (powerOfTen n)).Bounded := by
  obtain ⟨hfinite, hnonzero, horder⟩ := powerOfTen_spec n hn hpos
  exact hx.div hfinite hnonzero horder

/-- **A value times a power of ten** is finite, or refused. -/
theorem isFinite_timesPowerOfTen {steps : Nat} {x result : Double} {exponent : Int}
    (hx : x.Bounded) (h : timesPowerOfTen steps x exponent = some result) :
    result.isFinite = true := by
  induction steps generalizing x exponent with
  | zero =>
    obtain rfl := Option.some.inj h
    exact hx.isFinite
  | succ steps ih =>
    rw [timesPowerOfTen] at h
    split at h
    · rename_i hsmall
      split at h
      · dsimp only at h
        split at h
        · rename_i hproduct
          obtain rfl := Option.some.inj h
          exact hproduct
        · cases h
      · obtain rfl := Option.some.inj h
        exact (bounded_div_powerOfTen hx hsmall (by omega)).isFinite
    · split at h
      · obtain rfl := Option.some.inj h
        exact hx.isFinite
      · split at h
        · cases h
        · exact ih (bounded_div_powerOfTen hx le_rfl (by decide)) h

/-! ## The node of a number -/

theorem takeDigits_le {total : Nat} (h : total ≤ greatestWord) (digits : List Char) :
    (takeDigits total digits).1 ≤ greatestWord := by
  induction digits generalizing total with
  | nil => exact h
  | cons c rest ih =>
    rw [takeDigits]
    split
    · exact h
    · exact ih (by omega)

/-- A binary64 value with the sign of a number is a plain node. -/
theorem plain_signed {room : Nat} {x : Double} (hx : x.isFinite = true) (negative : Bool) :
    (Node.number (.double (if negative then x.neg else x))).Plain room := by
  refine .double ?_
  split
  · rw [Double.isFinite_neg, hx]
  · exact hx

/-- **The node of a number is plain.** -/
theorem plain_node (room : Nat) (parts : NumberParts) : parts.node.Plain room := by
  have hword : greatestWord = 2 ^ 64 - 1 := rfl
  have hbounded {total : Nat} (h : total ≤ greatestWord) : (Double.ofInt total).Bounded :=
    Double.bounded_ofInt (by rw [Int.natAbs_natCast]; omega)
  have hwhole := takeDigits_le (Nat.zero_le greatestWord) parts.whole
  rw [NumberParts.node]
  generalize takeDigits 0 parts.whole = taken at hwhole
  obtain ⟨total, left⟩ := taken
  dsimp only
  split
  case isTrue =>
    split
    case isTrue => exact .int (by omega) (by omega)
    case isFalse =>
      split
      case isTrue => exact plain_signed (hbounded hwhole).isFinite parts.negative
      case isFalse hlarge =>
        have htwo : twoTo 63 = 2 ^ 63 := rfl
        simp only [Bool.or_eq_true, decide_eq_true_eq, not_or, htwo] at hlarge
        exact .int (by omega) (by omega)
  case isFalse =>
    have hall := takeDigits_le hwhole (parts.fraction.getD [])
    generalize takeDigits total (parts.fraction.getD []) = taken at hall
    obtain ⟨total, skipped⟩ := taken
    split
    case h_1 value heq =>
      refine plain_signed ?_ parts.negative
      cases hexponent : parts.exponent with
      | none =>
        rw [hexponent] at heq
        exact isFinite_timesPowerOfTen (hbounded hall) heq
      | some exponent =>
        rw [hexponent] at heq
        dsimp only at heq
        split at heq
        · exact isFinite_timesPowerOfTen (hbounded hall) heq
        · split at heq
          · cases heq
          · obtain rfl := Option.some.inj heq
            exact (Double.bounded_zero _).isFinite
    case h_2 => exact .unreadable

end Json

end OpenApi
