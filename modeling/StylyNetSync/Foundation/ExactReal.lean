import StylyNetSync.Foundation.DoubleReal

/-!
# Exact arithmetic with an exact `π`

A program that turns degrees into radians has the number `π` as a literal, cut off after twenty
digits. Exact arithmetic with that literal is off by the digits missing: a full turn is not quite
360 degrees. Where a statement is about angles modulo a full turn, exactness includes `π`: here the
literal denotes the number it stands for, and every other literal is what it spells.
-/

/-- A real number, as a value of the source's floating-point type. -/
@[ext]
structure ExactReal where
  toReal : ℝ

namespace ExactReal

/-- The literal that stands for `π`. -/
def piLiteral : ℚ := 3.14159265358979323846

noncomputable instance : DoubleTrig ExactReal where
  add a b := ⟨a.toReal + b.toReal⟩
  sub a b := ⟨a.toReal - b.toReal⟩
  mul a b := ⟨a.toReal * b.toReal⟩
  div a b := ⟨a.toReal / b.toReal⟩
  neg a := ⟨-a.toReal⟩
  lit q := ⟨if q = piLiteral then Real.pi else q⟩
  lt a b := Double.lt a.toReal b.toReal
  le a b := Double.le a.toReal b.toReal
  eq a b := Double.eq a.toReal b.toReal
  isFinite a := Double.isFinite a.toReal
  isNaN a := Double.isNaN a.toReal
  fabs a := ⟨Double.fabs a.toReal⟩
  floor a := ⟨Double.floor a.toReal⟩
  sqrt a := ⟨Double.sqrt a.toReal⟩
  fmod a b := ⟨Double.fmod a.toReal b.toReal⟩
  toInt a := Double.toInt a.toReal
  sin a := ⟨DoubleTrig.sin a.toReal⟩
  cos a := ⟨DoubleTrig.cos a.toReal⟩
  atan2 y x := ⟨DoubleTrig.atan2 y.toReal x.toReal⟩

variable (a b : ExactReal)

@[simp] theorem toReal_add : (a + b).toReal = a.toReal + b.toReal := rfl

@[simp] theorem toReal_sub : (a - b).toReal = a.toReal - b.toReal := rfl

@[simp] theorem toReal_mul : (a * b).toReal = a.toReal * b.toReal := rfl

@[simp] theorem toReal_div : (a / b).toReal = a.toReal / b.toReal := rfl

@[simp] theorem toReal_neg : (-a).toReal = -a.toReal := rfl

@[simp] theorem toReal_sqrt : (Double.sqrt a).toReal = √a.toReal := rfl

@[simp] theorem toReal_fmod :
    (Double.fmod a b).toReal = Double.fmod a.toReal b.toReal := rfl

@[simp] theorem toReal_sin : (DoubleTrig.sin a).toReal = Real.sin a.toReal := rfl

@[simp] theorem toReal_cos : (DoubleTrig.cos a).toReal = Real.cos a.toReal := rfl

@[simp] theorem toReal_atan2 :
    (DoubleTrig.atan2 a b).toReal = Complex.arg ⟨b.toReal, a.toReal⟩ := rfl

@[simp] theorem isFinite_eq : Double.isFinite a = true := rfl

@[simp] theorem lt_iff : Double.lt a b = true ↔ a.toReal < b.toReal := decide_eq_true_iff

@[simp] theorem le_iff : Double.le a b = true ↔ a.toReal ≤ b.toReal := decide_eq_true_iff

/-- Every literal but one is the number it spells. -/
theorem toReal_lit {q : ℚ} (h : q ≠ piLiteral) : (Double.lit q : ExactReal).toReal = q := if_neg h

theorem toReal_lit_pi : (Double.lit piLiteral : ExactReal).toReal = Real.pi := if_pos rfl

end ExactReal
