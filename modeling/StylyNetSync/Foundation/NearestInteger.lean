import Mathlib.Algebra.Order.Floor.Ring
import Mathlib.Algebra.Ring.Int.Parity
import Mathlib.Tactic.Linarith
import Mathlib.Tactic.Ring

/-!
# Rounding half to even

The nearest integer of a number, and of two that are equally near the even one. `IsNearestEven` is
what the words say; `roundEven` computes it from the floor and what is above it.
-/

variable {α : Type*} [Field α] [LinearOrder α] [IsStrictOrderedRing α] [FloorRing α]

/-- The nearest integer; halfway between two, the even one. -/
def roundEven (x : α) : ℤ :=
  if 1 / 2 < x - ⌊x⌋ then ⌊x⌋ + 1
  else if x - ⌊x⌋ < 1 / 2 then ⌊x⌋
  else if Even ⌊x⌋ then ⌊x⌋ else ⌊x⌋ + 1

/-- An integer stays where it is. -/
theorem roundEven_intCast (n : ℤ) : roundEven (n : α) = n := by
  have hhalf : (0 : α) < 1 / 2 := one_half_pos
  rw [roundEven, Int.floor_intCast, sub_self, if_neg hhalf.le.not_gt, if_pos hhalf]

/-- No number is moved by more than a half. -/
theorem abs_sub_roundEven_le (x : α) : |x - roundEven x| ≤ 1 / 2 := by
  have hlower := Int.floor_le x
  have hupper := Int.lt_floor_add_one x
  rw [roundEven, abs_le]
  split_ifs with habove hbelow heven
  · rw [Int.cast_add, Int.cast_one]
    constructor <;> linarith
  · constructor <;> linarith
  · constructor <;> linarith
  · rw [Int.cast_add, Int.cast_one]
    constructor <;> linarith

theorem roundEven_le {x : α} {n : ℤ} (h : x ≤ n) : roundEven x ≤ n := by
  have hnear := (abs_le.mp (abs_sub_roundEven_le x)).1
  rcases h.lt_or_eq with hlt | rfl
  · have hcast : (roundEven x : α) < (n + 1 : ℤ) := by
      rw [Int.cast_add, Int.cast_one]
      linarith
    exact Int.lt_add_one_iff.mp (Int.cast_lt.mp hcast)
  · exact (roundEven_intCast n).le

theorem le_roundEven {x : α} {n : ℤ} (h : (n : α) ≤ x) : n ≤ roundEven x := by
  have hnear := (abs_le.mp (abs_sub_roundEven_le x)).2
  rcases h.lt_or_eq with hlt | rfl
  · have hcast : ((n - 1 : ℤ) : α) < roundEven x := by
      rw [Int.cast_sub, Int.cast_one]
      linarith
    exact Int.le_of_sub_one_lt (Int.cast_lt.mp hcast)
  · exact (roundEven_intCast n).ge

theorem roundEven_mono {x y : α} (h : x ≤ y) : roundEven x ≤ roundEven y := by
  by_contra hlt
  rw [not_le, Int.lt_iff_add_one_le] at hlt
  have hcast : ((roundEven y + 1 : ℤ) : α) ≤ roundEven x := Int.cast_le.mpr hlt
  rw [Int.cast_add, Int.cast_one] at hcast
  have hx := (abs_le.mp (abs_sub_roundEven_le x)).1
  have hy := (abs_le.mp (abs_sub_roundEven_le y)).2
  -- Both lie halfway between the two integers, so they are the same.
  have heq : x = y := le_antisymm h (by linarith)
  rw [heq] at hlt
  omega

/-- In units of `scale`, no number is moved by more than half a unit. -/
theorem abs_roundEven_div_mul_sub_le (value : α) {scale : α} (h : 0 < scale) :
    |roundEven (value / scale) * scale - value| ≤ scale / 2 := by
  have hfactor : roundEven (value / scale) * scale - value =
      (roundEven (value / scale) - value / scale) * scale := by
    rw [sub_mul, div_mul_cancel₀ _ h.ne']
  have hnear := abs_sub_roundEven_le (value / scale)
  rw [abs_sub_comm] at hnear
  calc |roundEven (value / scale) * scale - value|
      = |roundEven (value / scale) - value / scale| * scale := by
        rw [hfactor, abs_mul, abs_of_pos h]
    _ ≤ 1 / 2 * scale := mul_le_mul_of_nonneg_right hnear h.le
    _ = scale / 2 := by ring

/-! ### Nearest integers -/

/-- `n` is an integer nearest to `x`, and if another one is as near, it is the even one. -/
structure IsNearestEven (x : α) (n : ℤ) : Prop where
  nearest : ∀ m : ℤ, |x - n| ≤ |x - m|
  even : ∀ m : ℤ, m ≠ n → |x - m| = |x - n| → Even n

/-- From one integer to another it is a unit at least, past any number. -/
theorem one_le_abs_sub_add_abs_sub (x : α) {n m : ℤ} (h : m ≠ n) : 1 ≤ |x - m| + |x - n| := by
  have hapart : 1 ≤ |n - m| := Int.one_le_abs (sub_ne_zero.mpr h.symm)
  calc (1 : α) ≤ ((|n - m| : ℤ) : α) := by exact_mod_cast hapart
    _ = |x - m - (x - n)| := by
      rw [Int.cast_abs, Int.cast_sub]
      congr 1
      ring
    _ ≤ |x - m| + |x - n| := abs_sub _ _

/-- A half is rounded to an even integer. -/
theorem even_roundEven {x : α} (h : |x - roundEven x| = 1 / 2) : Even (roundEven x) := by
  have hlower := Int.floor_le x
  have hupper := Int.lt_floor_add_one x
  rw [roundEven] at h ⊢
  split_ifs at h ⊢ with habove hbelow heven
  · rw [Int.cast_add, Int.cast_one, abs_of_nonpos (by linarith)] at h
    linarith
  · rw [abs_of_nonneg (by linarith)] at h
    linarith
  · exact heven
  · exact Int.even_add_one.mpr heven

/-- **Rounding half to even yields what it is named after.** -/
theorem isNearestEven_roundEven (x : α) : IsNearestEven x (roundEven x) where
  nearest m := by
    rcases eq_or_ne m (roundEven x) with rfl | hne
    · exact le_rfl
    · have hapart := one_le_abs_sub_add_abs_sub x hne
      have hhalf := abs_sub_roundEven_le x
      linarith
  even m hne htie := by
    have hapart := one_le_abs_sub_add_abs_sub x hne
    have hhalf := abs_sub_roundEven_le x
    exact even_roundEven (le_antisymm hhalf (by linarith))

/-- There is one such integer only. -/
theorem IsNearestEven.eq_roundEven {x : α} {n : ℤ} (h : IsNearestEven x n) : n = roundEven x := by
  by_contra hne
  have htie : |x - n| = |x - roundEven x| :=
    le_antisymm (h.nearest _) ((isNearestEven_roundEven x).nearest n)
  have heven : Even n := h.even _ (Ne.symm hne) htie.symm
  have heven' : Even (roundEven x) := (isNearestEven_roundEven x).even n hne htie
  -- They are a unit apart, and so not both even.
  have hclose : |(n : α) - roundEven x| ≤ 1 := by
    have hhalf := abs_sub_roundEven_le x
    calc |(n : α) - roundEven x| = |x - roundEven x - (x - n)| := by
          congr 1
          ring
      _ ≤ |x - roundEven x| + |x - n| := abs_sub _ _
      _ ≤ 1 := by linarith
  have hunit : |n - roundEven x| ≤ 1 := by exact_mod_cast hclose
  obtain ⟨k, hk⟩ := heven.sub heven'
  rw [abs_le] at hunit
  omega

theorem isNearestEven_iff {x : α} {n : ℤ} : IsNearestEven x n ↔ n = roundEven x := by
  constructor
  · exact IsNearestEven.eq_roundEven
  · rintro rfl
    exact isNearestEven_roundEven x

/-! ### Evenness -/

/-- The remainder of an integer, with a quotient rounded towards zero, tells whether it is even. -/
theorem remainder_two_eq_zero_iff (n : ℤ) :
    (n : α) - 2 * ((if (n : α) / 2 < 0 then ⌈(n : α) / 2⌉ else ⌊(n : α) / 2⌋ : ℤ) : α) = 0 ↔
      Even n := by
  constructor
  · intro h
    rw [sub_eq_zero, two_mul] at h
    exact ⟨_, by exact_mod_cast h⟩
  · rintro ⟨k, rfl⟩
    have hhalf : ((k + k : ℤ) : α) / 2 = k := by
      rw [Int.cast_add, ← two_mul, mul_div_cancel_left₀ _ two_ne_zero]
    rw [hhalf, Int.ceil_intCast, Int.floor_intCast, ite_self, Int.cast_add]
    ring
