import StylyNetSync.Foundation.DoubleArith

/-!
# Arithmetic with infinities and a not-a-number

Exact arithmetic on finite numbers, extended the way floating-point types are: by the two infinities
and by a value that is not a number, which is unordered and absorbs whatever it meets. The finite
part is any type with the operations, and on it the operations are those of the type.

There is one zero only, so that a quotient by zero takes its sign from the dividend. Converting what
is not finite to an integer is undefined in the source language, and zero here.
-/

/-- A number, an infinity, or not a number. -/
inductive Extended (D : Type)
  | finite (x : D)
  | posInf
  | negInf
  | nan
  deriving DecidableEq

namespace Extended

variable {D : Type} [Double D]

/-- The infinity with the sign of a number; there is none for zero. -/
def infinityOf (x : D) : Extended D :=
  if Double.lt (Double.lit 0) x then posInf
  else if Double.lt x (Double.lit 0) then negInf
  else nan

def add : Extended D → Extended D → Extended D
  | finite x, finite y => finite (x + y)
  | finite _, posInf | posInf, finite _ | posInf, posInf => posInf
  | finite _, negInf | negInf, finite _ | negInf, negInf => negInf
  | posInf, negInf | negInf, posInf | nan, _ | _, nan => nan

def neg : Extended D → Extended D
  | finite x => finite (-x)
  | posInf => negInf
  | negInf => posInf
  | nan => nan

def sub : Extended D → Extended D → Extended D
  | finite x, finite y => finite (x - y)
  | a, b => a.add b.neg

def mul : Extended D → Extended D → Extended D
  | finite x, finite y => finite (x * y)
  | finite x, posInf | posInf, finite x => infinityOf x
  | finite x, negInf | negInf, finite x => infinityOf (-x)
  | posInf, posInf | negInf, negInf => posInf
  | posInf, negInf | negInf, posInf => negInf
  | nan, _ | _, nan => nan

def div : Extended D → Extended D → Extended D
  | finite x, finite y => if Double.eq y (Double.lit 0) then infinityOf x else finite (x / y)
  | finite _, posInf | finite _, negInf => finite (Double.lit 0)
  | posInf, finite y => if Double.eq y (Double.lit 0) then posInf else infinityOf y
  | negInf, finite y => if Double.eq y (Double.lit 0) then negInf else infinityOf (-y)
  | posInf, posInf | posInf, negInf | negInf, posInf | negInf, negInf | nan, _ | _, nan => nan

instance : Double (Extended D) where
  add := add
  sub := sub
  mul := mul
  div := div
  neg := neg
  lit q := finite (Double.lit q)
  lt
    | finite x, finite y => Double.lt x y
    | finite _, posInf | negInf, finite _ | negInf, posInf => true
    | _, _ => false
  le
    | finite x, finite y => Double.le x y
    | finite _, posInf | negInf, finite _ | negInf, posInf | posInf, posInf | negInf, negInf => true
    | _, _ => false
  eq
    | finite x, finite y => Double.eq x y
    | posInf, posInf | negInf, negInf => true
    | _, _ => false
  isFinite
    | finite x => Double.isFinite x
    | _ => false
  isNaN
    | finite x => Double.isNaN x
    | posInf | negInf => false
    | nan => true
  fabs
    | finite x => finite (Double.fabs x)
    | posInf | negInf => posInf
    | nan => nan
  floor
    | finite x => finite (Double.floor x)
    | a => a
  sqrt
    | finite x => if Double.lt x (Double.lit 0) then nan else finite (Double.sqrt x)
    | posInf => posInf
    | negInf | nan => nan
  fmod
    | finite x, finite y => if Double.eq y (Double.lit 0) then nan else finite (Double.fmod x y)
    | finite x, posInf | finite x, negInf => finite x
    | _, _ => nan
  toInt
    | finite x => Double.toInt x
    | _ => 0

/-! ### Over the rational numbers -/

/-- What is ordered: two numbers, or anything above the one infinity or below the other. -/
theorem le_cases {x y : Extended ℚ} (h : Double.le x y = true) :
    (∃ a b : ℚ, x = finite a ∧ y = finite b ∧ a ≤ b) ∨ x = negInf ∨ y = posInf := by
  cases x with
  | finite a =>
    cases y with
    | finite b => exact Or.inl ⟨a, b, rfl, rfl, of_decide_eq_true h⟩
    | posInf => exact Or.inr (Or.inr rfl)
    | negInf => exact absurd h Bool.false_ne_true
    | nan => exact absurd h Bool.false_ne_true
  | posInf =>
    cases y with
    | posInf => exact Or.inr (Or.inr rfl)
    | finite b => exact absurd h Bool.false_ne_true
    | negInf => exact absurd h Bool.false_ne_true
    | nan => exact absurd h Bool.false_ne_true
  | negInf => exact Or.inr (Or.inl rfl)
  | nan => exact absurd h (by cases y <;> exact Bool.false_ne_true)

variable {s : ℚ}

theorem eq_zero_of_pos (hs : 0 < s) : Double.eq s (Double.lit 0) = false := decide_eq_false hs.ne'

theorem finite_div_finite (hs : 0 < s) (x : ℚ) :
    (finite x / finite s : Extended ℚ) = finite (x / s) := by
  show (if Double.eq s (Double.lit 0) = true then infinityOf x else finite (x / s)) = _
  rw [eq_zero_of_pos hs, if_neg Bool.false_ne_true]

theorem posInf_div_finite (hs : 0 < s) : (posInf / finite s : Extended ℚ) = posInf := by
  have hpos : Double.lt (Double.lit 0) s = true := decide_eq_true hs
  show (if Double.eq s (Double.lit 0) = true then posInf else infinityOf s) = _
  rw [eq_zero_of_pos hs, if_neg Bool.false_ne_true, infinityOf, if_pos hpos]

theorem negInf_div_finite (hs : 0 < s) : (negInf / finite s : Extended ℚ) = negInf := by
  have hopposite : -s < 0 := neg_lt_zero.mpr hs
  have hpos : Double.lt (Double.lit 0) (-s) = false := decide_eq_false hopposite.not_gt
  have hneg : Double.lt (-s) (Double.lit 0) = true := decide_eq_true hopposite
  show (if Double.eq s (Double.lit 0) = true then negInf else infinityOf (-s)) = _
  rw [eq_zero_of_pos hs, if_neg Bool.false_ne_true, infinityOf, hpos, if_neg Bool.false_ne_true,
    if_pos hneg]

end Extended
