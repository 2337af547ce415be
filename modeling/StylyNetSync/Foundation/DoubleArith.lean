import Mathlib.Data.Rat.Floor
import Mathlib.Data.Nat.Sqrt

/-!
# The operations of a floating-point type

A program that computes with `double` is modelled over a type `D` that carries the operations the
program applies, with no laws attached: what is proved for every `D` holds of rounded arithmetic
with its not-a-numbers as well as of an exact idealisation. `lit q` is the value the compiler picks
for the literal `q`, and comparisons are Boolean functions of their own because on a not-a-number
neither order nor equality holds.

`ℚ` is an instance: exact, executable, and enough to evaluate a model on concrete input. Its square
root is exact on squares of rationals and rounded towards zero elsewhere; its trigonometric
functions are rational approximations.
-/

/-- The floating-point operations of the source language. -/
class Double (D : Type) extends Add D, Sub D, Mul D, Div D, Neg D where
  /-- The value of a numeric literal. -/
  lit : ℚ → D
  /-- The comparison `a < b`. -/
  lt : D → D → Bool
  /-- The comparison `a <= b`. -/
  le : D → D → Bool
  /-- The comparison `a == b`. -/
  eq : D → D → Bool
  isFinite : D → Bool
  isNaN : D → Bool
  fabs : D → D
  floor : D → D
  sqrt : D → D
  fmod : D → D → D
  /-- The conversion to an integer type, rounding towards zero. -/
  toInt : D → ℤ

/-- The trigonometric functions of the source language. -/
class DoubleTrig (D : Type) extends Double D where
  sin : D → D
  cos : D → D
  atan2 : D → D → D

namespace Double

variable {D : Type} [Double D]

/-- The larger of two values as the standard library picks it: the first unless it is smaller. -/
def max (a b : D) : D := if lt a b then b else a

/-- The smaller of two values as the standard library picks it: the first unless it is larger. -/
def min (a b : D) : D := if lt b a then b else a

/-- A rational square root, rounded towards zero in units of the denominator. -/
def ratSqrt (q : ℚ) : ℚ := (Nat.sqrt (q.num.toNat * q.den) : ℚ) / q.den

/-- Integer part, rounding towards zero. -/
def ratTrunc (q : ℚ) : ℤ := if q < 0 then ⌈q⌉ else ⌊q⌋

theorem ratTrunc_intCast (n : ℤ) : ratTrunc n = n := by
  rw [ratTrunc, Int.ceil_intCast, Int.floor_intCast, ite_self]

/-- Rounding towards zero does not make a number larger. -/
theorem abs_ratTrunc_le (q : ℚ) : |(ratTrunc q : ℚ)| ≤ |q| := by
  rw [ratTrunc]
  split
  · next h =>
    have hceil : (⌈q⌉ : ℚ) ≤ 0 := by exact_mod_cast Int.ceil_le.mpr (by exact_mod_cast h.le)
    rw [abs_of_nonpos hceil, abs_of_neg h]
    exact neg_le_neg (Int.le_ceil q)
  · next h =>
    have hq : 0 ≤ q := not_lt.mp h
    have hfloor : (0 : ℚ) ≤ ⌊q⌋ := by exact_mod_cast Int.floor_nonneg.mpr hq
    rw [abs_of_nonneg hfloor, abs_of_nonneg hq]
    exact Int.floor_le q

instance : Double ℚ where
  lit q := q
  lt a b := decide (a < b)
  le a b := decide (a ≤ b)
  eq a b := decide (a = b)
  isFinite _ := true
  isNaN _ := false
  fabs q := |q|
  floor q := ⌊q⌋
  sqrt := ratSqrt
  fmod a b := a - b * ratTrunc (a / b)
  toInt := ratTrunc

/-- The beginning of an alternating power series: every second term, from the given exponent on. -/
def ratSeries (first : ℕ) (q : ℚ) : ℚ :=
  ((List.range 10).map fun k ↦
    (-1) ^ k * q ^ (2 * k + first) / ((2 * k + first).factorial : ℚ)).sum

/-- The arc tangent, to within a hundredth. -/
def ratAtan (q : ℚ) : ℚ :=
  if |q| ≤ 1 then q / (1 + 9 / 32 * q ^ 2)
  else (if q < 0 then -1 else 1) * (355 / 226) - q⁻¹ / (1 + 9 / 32 * q⁻¹ ^ 2)

instance : DoubleTrig ℚ where
  sin := ratSeries 1
  cos := ratSeries 0
  atan2 y x :=
    if 0 < x then ratAtan (y / x)
    else if x < 0 then ratAtan (y / x) + (if y < 0 then -1 else 1) * (355 / 113)
    else if 0 < y then 355 / 226
    else if y < 0 then -355 / 226
    else 0

end Double
