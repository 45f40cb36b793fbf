import Mathlib.Algebra.Order.Field.Power
import Mathlib.Algebra.Order.Field.Rat
import OpenApi.Resolution.Model

/-!
# Numeric bounds

A schema bounds a number from below and from above, on each side by an inclusive bound and by an
exclusive one. The exclusive one is either a flag, which makes the inclusive bound strict, or a
strict bound of its own. What is left on each side is one bound and whether it is strict. That is
the tighter of the two, so the same numbers meet it.

## Main definitions

* `Double.toRat`: the exact value of a finite number.
* `MeetsDeclared`, `MeetsFolded`: what the bounds of one side ask of a number, before and after.
* `Keywords.Admits`, `Limits.Admits`: the same for both sides.
* `Keywords.Constrains`: a schema declares some constraint.

## Main statements

* `Double.le_iff_toRat_le`: finite numbers compare as their exact values do.
* `meetsFolded_foldBound_iff`: folding the bounds of one side keeps their meaning.
* `admits_and_isPresent_limits`: the constraints of a resolved schema mean what the schema declares.
-/
namespace OpenApi

open Resolved (Limits)

/-! ## Exact values -/

namespace Double

/-- The exact value of a finite number; the others have none, and stand at zero. -/
def toRat : Double → ℚ
  | finite negative significand exponent => signed negative significand * 2 ^ exponent
  | infinite _ | nan => 0

theorem signed_shiftLeft (negative : Bool) (significand places : Nat) :
    signed negative (significand <<< places) = signed negative significand * 2 ^ places := by
  rw [Nat.shiftLeft_eq]
  cases negative <;> simp [signed]

/-- A value is a whole number of any power of two that is at most its own. -/
theorem toRat_finite_eq {exponent low : Int} (h : low ≤ exponent) (negative : Bool)
    (significand : Nat) : (finite negative significand exponent).toRat =
      signed negative (significand <<< (exponent - low).toNat) * 2 ^ low := by
  have hscaled : (2 : ℚ) ^ exponent = 2 ^ (exponent - low).toNat * 2 ^ low := by
    rw [← zpow_natCast, ← zpow_add₀ two_ne_zero]
    congr 1
    omega
  rw [toRat, signed_shiftLeft, hscaled, ← mul_assoc]
  push_cast
  rfl

/-- **Finite numbers compare as their exact values do.** -/
theorem le_iff_toRat_le {x y : Double} (hx : x.isFinite = true) (hy : y.isFinite = true) :
    x.le y = true ↔ x.toRat ≤ y.toRat := by
  cases x with
  | finite s m e =>
    cases y with
    | finite t n f =>
      have hpos : (0 : ℚ) < 2 ^ min e f := zpow_pos two_pos _
      rw [toRat_finite_eq (min_le_left e f), toRat_finite_eq (min_le_right e f),
        mul_le_mul_iff_left₀ hpos, Int.cast_le, le, decide_eq_true_iff]
    | infinite => cases hy
    | nan => cases hy
  | infinite => cases hx
  | nan => cases hx

end Double

/-! ## One side -/

/-- Whether a number meets a bound from below. -/
def MeetsLow (strict : Bool) (low : Double) (x : ℚ) : Prop :=
  if strict then low.toRat < x else low.toRat ≤ x

/-- Whether a number meets a bound from above. -/
def MeetsHigh (strict : Bool) (high : Double) (x : ℚ) : Prop :=
  if strict then x < high.toRat else x ≤ high.toRat

section Side

variable (meets : Bool → Double → ℚ → Prop)

/-- What the bounds that a schema declares on one side ask of a number, where `meets` says what it
is to meet a bound on that side. -/
structure MeetsDeclared (inclusive : Option Double) (exclusive : Option ExclusiveBound) (x : ℚ) :
    Prop where
  weak : ∀ bound ∈ inclusive, meets false bound x
  /-- A flag makes the inclusive bound strict, and asks for nothing without one. -/
  flagged : exclusive = some (.flag true) → ∀ bound ∈ inclusive, meets true bound x
  strict : ∀ bound, exclusive = some (.limit bound) → meets true bound x

/-- What the bound that is left on one side asks of a number. -/
def MeetsFolded (folded : Option Double × Bool) (x : ℚ) : Prop :=
  ∀ bound ∈ folded.1, meets folded.2 bound x

variable {meets} {tighter : Double → Double → Bool} {inclusive : Option Double}
  {exclusive : Option ExclusiveBound} {x : ℚ}

theorem meetsFolded_some_iff {bound : Double} {strict : Bool} :
    MeetsFolded meets (some bound, strict) x ↔ meets strict bound x := by
  simp [MeetsFolded]

theorem meetsDeclared_none_iff : MeetsDeclared meets inclusive none x ↔
    MeetsFolded meets (inclusive, false) x :=
  ⟨fun h => h.weak, fun h => ⟨h, nofun, nofun⟩⟩

theorem meetsDeclared_flag_iff (hweaken : ∀ bound, meets true bound x → meets false bound x)
    {strict : Bool} : MeetsDeclared meets inclusive (some (.flag strict)) x ↔
      MeetsFolded meets (inclusive, strict) x := by
  cases strict with
  | false => exact ⟨fun h => h.weak, fun h => ⟨h, nofun, nofun⟩⟩
  | true =>
    exact ⟨fun h => h.flagged rfl,
      fun h => ⟨fun bound hbound => hweaken bound (h bound hbound), fun _ => h, nofun⟩⟩

theorem meetsDeclared_limit_iff {e : Double} : MeetsDeclared meets inclusive (some (.limit e)) x ↔
    (∀ bound ∈ inclusive, meets false bound x) ∧ meets true e x := by
  constructor
  · exact fun h => ⟨h.weak, h.strict e rfl⟩
  · rintro ⟨hweak, he⟩
    refine ⟨hweak, nofun, ?_⟩
    rintro _ ⟨⟩
    exact he

/-- **Folding the bounds of one side keeps their meaning**, if a strict bound that is tighter than
the inclusive one implies it, and one that is not is implied by it. -/
theorem meetsFolded_foldBound_iff (hweaken : ∀ bound, meets true bound x → meets false bound x)
    (htighter : ∀ e i, exclusive = some (.limit e) → inclusive = some i →
      if tighter e i then meets true e x → meets false i x else meets false i x → meets true e x) :
    MeetsFolded meets (foldBound tighter inclusive exclusive) x ↔
      MeetsDeclared meets inclusive exclusive x := by
  cases exclusive with
  | none => exact meetsDeclared_none_iff.symm
  | some exclusive =>
    cases exclusive with
    | flag strict => exact (meetsDeclared_flag_iff hweaken).symm
    | limit e =>
      rw [meetsDeclared_limit_iff]
      cases inclusive with
      | none => simp [foldBound, meetsFolded_some_iff]
      | some i =>
        have hboth := htighter e i rfl rfl
        simp only [Option.mem_def, Option.some.injEq, forall_eq']
        rw [foldBound]
        split <;> rename_i htight
        · rw [if_pos htight] at hboth
          rw [meetsFolded_some_iff, and_iff_right_of_imp hboth]
        · rw [if_neg htight] at hboth
          rw [meetsFolded_some_iff, and_iff_left_of_imp hboth]

end Side

section Finite

variable {inclusive : Option Double} {exclusive : Option ExclusiveBound}

theorem meetsFolded_low_iff (hinclusive : ∀ i ∈ inclusive, i.isFinite = true)
    (hexclusive : ∀ e, exclusive = some (.limit e) → e.isFinite = true) (x : ℚ) :
    MeetsFolded MeetsLow (foldBound (fun e i => i.le e) inclusive exclusive) x ↔
      MeetsDeclared MeetsLow inclusive exclusive x := by
  refine meetsFolded_foldBound_iff (fun bound => le_of_lt) fun e i he hi => ?_
  have hle := Double.le_iff_toRat_le (hinclusive i hi) (hexclusive e he)
  split <;> rename_i htight
  · exact fun hx => ((hle.1 htight).trans_lt hx).le
  · exact fun hx => (not_le.1 fun h => htight (hle.2 h)).trans_le hx

theorem meetsFolded_high_iff (hinclusive : ∀ i ∈ inclusive, i.isFinite = true)
    (hexclusive : ∀ e, exclusive = some (.limit e) → e.isFinite = true) (x : ℚ) :
    MeetsFolded MeetsHigh (foldBound (fun e i => e.le i) inclusive exclusive) x ↔
      MeetsDeclared MeetsHigh inclusive exclusive x := by
  refine meetsFolded_foldBound_iff (fun bound => le_of_lt) fun e i he hi => ?_
  have hle := Double.le_iff_toRat_le (hexclusive e he) (hinclusive i hi)
  split <;> rename_i htight
  · exact fun hx => (hx.trans_le (hle.1 htight)).le
  · exact fun hx => hx.trans_lt (not_le.1 fun h => htight (hle.2 h))

end Finite

/-! ## Both sides -/

namespace Keywords

/-- The bounds of a schema are finite numbers. -/
structure FiniteBounds (keywords : Keywords) : Prop where
  minimum : ∀ low ∈ keywords.minimum, low.isFinite = true
  maximum : ∀ high ∈ keywords.maximum, high.isFinite = true
  exclusiveMinimum : ∀ low, keywords.exclusiveMinimum = some (.limit low) → low.isFinite = true
  exclusiveMaximum : ∀ high, keywords.exclusiveMaximum = some (.limit high) → high.isFinite = true

/-- A number satisfies the bounds that a schema declares. -/
structure Admits (keywords : Keywords) (x : ℚ) : Prop where
  low : MeetsDeclared MeetsLow keywords.minimum keywords.exclusiveMinimum x
  high : MeetsDeclared MeetsHigh keywords.maximum keywords.exclusiveMaximum x

/-- A schema declares some constraint. A flag without a bound is none. -/
def Constrains (keywords : Keywords) : Prop :=
  keywords.pattern.isSome
    ∨ keywords.minimum.isSome ∨ (∃ low, keywords.exclusiveMinimum = some (.limit low))
    ∨ keywords.maximum.isSome ∨ (∃ high, keywords.exclusiveMaximum = some (.limit high))
    ∨ keywords.multipleOf.isSome
    ∨ keywords.minLength.isSome ∨ keywords.maxLength.isSome
    ∨ keywords.minItems.isSome ∨ keywords.maxItems.isSome ∨ keywords.uniqueItems = some true
    ∨ keywords.minProperties.isSome ∨ keywords.maxProperties.isSome

end Keywords

/-- A number satisfies the bounds of some constraints. -/
structure Resolved.Limits.Admits (limits : Limits) (x : ℚ) : Prop where
  low : MeetsFolded MeetsLow (limits.minimum, limits.exclusiveMinimum) x
  high : MeetsFolded MeetsHigh (limits.maximum, limits.exclusiveMaximum) x

theorem admits_limitsOf_iff {keywords : Keywords} (h : keywords.FiniteBounds) (x : ℚ) :
    (limitsOf keywords).Admits x ↔ keywords.Admits x := by
  have hlow := meetsFolded_low_iff h.minimum h.exclusiveMinimum x
  have hhigh := meetsFolded_high_iff h.maximum h.exclusiveMaximum x
  constructor
  · exact fun hx => ⟨hlow.1 hx.low, hhigh.1 hx.high⟩
  · exact fun hx => ⟨hlow.2 hx.low, hhigh.2 hx.high⟩

/-- A bound is left on a side that declares a number. -/
theorem isSome_foldBound_iff (tighter : Double → Double → Bool) (inclusive : Option Double)
    (exclusive : Option ExclusiveBound) : (foldBound tighter inclusive exclusive).1.isSome ↔
      inclusive.isSome ∨ ∃ bound, exclusive = some (.limit bound) := by
  rcases exclusive with _ | (_ | _)
  · simp [foldBound]
  · simp [foldBound]
  · cases inclusive with
    | none => simp [foldBound]
    | some i =>
      rw [foldBound]
      split <;> simp

theorem isPresent_limitsOf_iff (keywords : Keywords) :
    (limitsOf keywords).isPresent = true ↔ keywords.Constrains := by
  have hunique : keywords.uniqueItems.getD false = true ↔ keywords.uniqueItems = some true := by
    cases keywords.uniqueItems <;> simp
  simp only [Limits.isPresent, limitsOf, Bool.or_eq_true, isSome_foldBound_iff, hunique, or_assoc,
    Keywords.Constrains]

/-- **The constraints of a resolved schema mean what the schema declares**: as long as its bounds
are finite numbers, the same numbers satisfy them, and they are flagged when there are some, which
is when the schema declares some. A property and a model have the same ones. -/
theorem admits_and_isPresent_limits (schema : Schema) (dialect : Dialect) (name : String)
    (required : Bool) :
    (schema.FiniteBounds → ∀ x : ℚ,
        (dialect.property name required (.inline schema)).traits.limits.Admits x ↔ schema.Admits x)
      ∧ ((dialect.property name required (.inline schema)).traits.hasLimits = true ↔
        schema.Constrains)
      ∧ (dialect.property name required (.inline schema)).traits.hasLimits =
        (dialect.property name required (.inline schema)).traits.limits.isPresent
      ∧ (dialect.bodyModel name schema).limits =
        (dialect.property name required (.inline schema)).traits.limits :=
  ⟨admits_limitsOf_iff, isPresent_limitsOf_iff schema.toKeywords, rfl, rfl⟩

/-- A count with a loose exclusive bound from below, and from above one that is equal to the
inclusive bound. -/
def countSchema : Schema where
  type := some (.single .integer)
  minimum := some (.ofInt 5)
  exclusiveMinimum := some (.limit (.ofInt 3))
  maximum := some (.ofInt 10)
  exclusiveMaximum := some (.limit (.ofInt 10))

theorem admits_and_isPresent_limits_count :
    countSchema.FiniteBounds
      ∧ (∀ x : ℚ, (limitsOf countSchema.toKeywords).Admits x ↔ countSchema.Admits x)
      ∧ (traitsOf countSchema.toKeywords).hasLimits = true
      ∧ (limitsOf countSchema.toKeywords).minimum = some (.ofInt 5)
      ∧ (limitsOf countSchema.toKeywords).exclusiveMinimum = false
      ∧ (limitsOf countSchema.toKeywords).maximum = some (.ofInt 10)
      ∧ (limitsOf countSchema.toKeywords).exclusiveMaximum = true := by
  have hfinite : countSchema.FiniteBounds := by
    constructor <;> simp [countSchema] <;> decide +kernel
  obtain ⟨hadmits, hpresent, -⟩ := admits_and_isPresent_limits countSchema {} "count" true
  exact ⟨hfinite, hadmits hfinite, hpresent.2 (.inr (.inl rfl)), by decide +kernel,
    by decide +kernel, by decide +kernel, by decide +kernel⟩

end OpenApi
