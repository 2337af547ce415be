import Mathlib.Tactic.FieldSimp
import StylyNetSync.Foundation.DoubleReal

/-!
# Exact arithmetic

Over a floating-point type that does not round, the operations of a program are those of a field,
its literals are the rational numbers they spell, and the cosine and the sine of an angle are a
point of the unit circle that turns as angles are added. The reals are such a type.
-/

/-- A floating-point type that does not round. -/
class ExactDouble (D : Type) extends Field D, DoubleTrig D where
  lit_eq_cast (q : ℚ) : lit q = (q : D)
  cast_ne_zero {q : ℚ} : q ≠ 0 → (q : D) ≠ 0
  cos_mul_self_add_sin_mul_self (x : D) : cos x * cos x + sin x * sin x = 1
  cos_add_eq (x y : D) : cos (x + y) = cos x * cos y - sin x * sin y
  sin_add_eq (x y : D) : sin (x + y) = sin x * cos y + cos x * sin y

noncomputable instance : ExactDouble ℝ where
  lit_eq_cast _ := rfl
  cast_ne_zero := Rat.cast_ne_zero.mpr
  cos_mul_self_add_sin_mul_self x := by
    have h := Real.cos_sq_add_sin_sq x
    rwa [sq, sq] at h
  cos_add_eq := Real.cos_add
  sin_add_eq := Real.sin_add

namespace ExactDouble

variable {D : Type} [ExactDouble D]

/-! The laws in terms of the operations that programs use. -/

theorem lit_eq (q : ℚ) : (Double.lit q : D) = (q : D) := lit_eq_cast q

@[simp] theorem lit_zero : (Double.lit 0 : D) = 0 := (lit_eq 0).trans Rat.cast_zero

@[simp] theorem lit_one : (Double.lit 1 : D) = 1 := (lit_eq 1).trans Rat.cast_one

theorem cos_sq_add_sin_sq (x : D) :
    DoubleTrig.cos x * DoubleTrig.cos x + DoubleTrig.sin x * DoubleTrig.sin x = 1 :=
  cos_mul_self_add_sin_mul_self x

theorem cos_add (x y : D) :
    DoubleTrig.cos (x + y) =
      DoubleTrig.cos x * DoubleTrig.cos y - DoubleTrig.sin x * DoubleTrig.sin y :=
  cos_add_eq x y

theorem sin_add (x y : D) :
    DoubleTrig.sin (x + y) =
      DoubleTrig.sin x * DoubleTrig.cos y + DoubleTrig.cos x * DoubleTrig.sin y :=
  sin_add_eq x y

/-- A change of units, and back. -/
theorem scale_back (x : D) {p q : ℚ} (hp : p ≠ 0) (hq : q ≠ 0) :
    x * (Double.lit p / Double.lit q) * (Double.lit q / Double.lit p) = x := by
  have hp' : (p : D) ≠ 0 := cast_ne_zero hp
  have hq' : (q : D) ≠ 0 := cast_ne_zero hq
  rw [lit_eq, lit_eq]
  field_simp

end ExactDouble

/-- A floating-point type of real numbers, with exact differences, quotients and comparisons. -/
class RealValued (D : Type) [Double D] where
  toReal : D → ℝ
  toReal_lit (q : ℚ) : toReal (Double.lit q) = q
  toReal_sub (x y : D) : toReal (x - y) = toReal x - toReal y
  toReal_div (x y : D) : toReal (x / y) = toReal x / toReal y
  lt_iff (x y : D) : Double.lt x y = true ↔ toReal x < toReal y

noncomputable instance : RealValued ℝ where
  toReal x := x
  toReal_lit _ := rfl
  toReal_sub _ _ := rfl
  toReal_div _ _ := rfl
  lt_iff _ _ := decide_eq_true_iff

noncomputable instance : RealValued ℚ where
  toReal x := x
  toReal_lit _ := rfl
  toReal_sub := Rat.cast_sub
  toReal_div := Rat.cast_div
  lt_iff _ _ := decide_eq_true_iff.trans Rat.cast_lt.symm

namespace RealValued

variable {D : Type} [Double D] [RealValued D]

theorem toReal_max_pos {x y : D} (h : 0 < toReal x) : 0 < toReal (Double.max x y) := by
  rw [Double.max]
  split
  · next hlt => exact h.trans ((lt_iff x y).mp hlt)
  · exact h

end RealValued
