import Mathlib.Data.Nat.Digits.Defs
import Mathlib.Tactic.Ring

/-!
# Little-endian words

Fixed-width little-endian words over bytes: `leBytes n v` writes the `n` low bytes of `v`, least
significant first, and `leValue` reads a byte string back. The value of what was written is `v`
reduced modulo `256 ^ n` (`leValue_leBytes`), so a word that fits its width is read back unchanged
(`leValue_leBytes_of_lt`).
-/

namespace LittleEndian

/-- The `n` low bytes of `v`, least significant byte first. -/
def leBytes : ℕ → ℕ → List UInt8
  | 0, _ => []
  | n + 1, v => UInt8.ofNat (v % 256) :: leBytes n (v / 256)

/-- The number a byte string stands for, least significant byte first. -/
def leValue (bs : List UInt8) : ℕ :=
  Nat.ofDigits 256 (bs.map UInt8.toNat)

@[simp]
theorem length_leBytes (n v : ℕ) : (leBytes n v).length = n := by
  induction n generalizing v with
  | zero => rfl
  | succ n ih => simp [leBytes, ih]

@[simp]
theorem leValue_nil : leValue [] = 0 := rfl

theorem leValue_cons (b : UInt8) (bs : List UInt8) :
    leValue (b :: bs) = b.toNat + 256 * leValue bs := by
  simp [leValue, Nat.ofDigits_cons]

/-- Reading a written word gives the value modulo the width of the word. -/
theorem leValue_leBytes (n v : ℕ) : leValue (leBytes n v) = v % 256 ^ n := by
  induction n generalizing v with
  | zero => simp [leBytes, Nat.mod_one]
  | succ n ih =>
    have hdigit : (UInt8.ofNat (v % 256)).toNat = v % 256 := by simp
    rw [leBytes, leValue_cons, ih, hdigit, pow_succ', Nat.mod_mul]

/-- A value that fits the width of the word is read back unchanged. -/
theorem leValue_leBytes_of_lt {n v : ℕ} (h : v < 256 ^ n) : leValue (leBytes n v) = v := by
  rw [leValue_leBytes, Nat.mod_eq_of_lt h]

end LittleEndian
