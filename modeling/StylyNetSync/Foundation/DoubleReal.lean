import Mathlib.Analysis.SpecialFunctions.Complex.Arg
import StylyNetSync.Foundation.DoubleArith
import StylyNetSync.Foundation.NearestInteger

/-!
# The reals as a floating-point type

The exact idealisation with trigonometric functions: nothing rounds, nothing is infinite and nothing
is a not-a-number. It is what a statement about every floating-point type says of ideal arithmetic.
-/

open Classical in
noncomputable instance : DoubleTrig ℝ where
  lit q := q
  lt a b := decide (a < b)
  le a b := decide (a ≤ b)
  eq a b := decide (a = b)
  isFinite _ := true
  isNaN _ := false
  fabs r := |r|
  floor r := ⌊r⌋
  sqrt := Real.sqrt
  fmod a b := a - b * (if a / b < 0 then ⌈a / b⌉ else ⌊a / b⌋)
  toInt r := if r < 0 then ⌈r⌉ else ⌊r⌋
  sin := Real.sin
  cos := Real.cos
  atan2 y x := Complex.arg ⟨x, y⟩

namespace Double

@[simp] theorem lit_real (q : ℚ) : (lit q : ℝ) = q := rfl

theorem lit_zero_real : (lit 0 : ℝ) = 0 := Rat.cast_zero

theorem lit_one_real : (lit 1 : ℝ) = 1 := Rat.cast_one

theorem lit_two_real : (lit 2 : ℝ) = 2 := Rat.cast_ofNat 2

@[simp] theorem lt_real (x y : ℝ) : lt x y = true ↔ x < y := decide_eq_true_iff

@[simp] theorem le_real (x y : ℝ) : le x y = true ↔ x ≤ y := decide_eq_true_iff

@[simp] theorem eq_real (x y : ℝ) : eq x y = true ↔ x = y := decide_eq_true_iff

@[simp] theorem isFinite_real (x : ℝ) : isFinite x = true := rfl

@[simp] theorem fabs_real (x : ℝ) : fabs x = |x| := rfl

@[simp] theorem floor_real (x : ℝ) : floor x = (⌊x⌋ : ℝ) := rfl

@[simp] theorem sqrt_real (x : ℝ) : sqrt x = √x := rfl

theorem fmod_real (x y : ℝ) :
    fmod x y = x - y * (if x / y < 0 then ⌈x / y⌉ else ⌊x / y⌋) := by
  show x - y * _ = _
  split_ifs <;> rfl

theorem toInt_real_of_nonneg {x : ℝ} (h : 0 ≤ x) : toInt x = ⌊x⌋ := if_neg h.not_gt

/-- The remainder of an integer tells whether it is even. -/
theorem fmod_two_eq_zero_iff (n : ℤ) : fmod (n : ℝ) 2 = 0 ↔ Even n := by
  rw [fmod_real]
  exact remainder_two_eq_zero_iff n

end Double
