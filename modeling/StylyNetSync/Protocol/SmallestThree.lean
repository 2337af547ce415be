import Mathlib.Data.Fin.Tuple.Basic
import Mathlib.Data.Fintype.Fin
import Mathlib.Tactic.FinCases
import StylyNetSync.Protocol.PoseCodec

/-!
# The layout of a packed rotation

The loops of the two smallest-three routines, unrolled: two bits of index and three words of ten
bits, which belong to the other indices in increasing order. `Fin.succAbove` enumerates these. What
the packer puts in, the unpacker takes out (`decompress_packWords`).
-/

namespace StylyNetSync

variable {D : Type} [Double D]

/-- An index and the words of the other three components. -/
def packWords (largest : Fin 4) (word : Fin 3 → UInt32) : UInt32 :=
  (List.finRange 3).foldl (fun packed k ↦ packed ||| word k <<< UInt32.ofNat (20 - k.val * 10))
    (UInt32.ofNat largest.val <<< 30)

theorem packWords_eq (largest : Fin 4) (word : Fin 3 → UInt32) :
    packWords largest word =
      UInt32.ofNat largest.val <<< 30 ||| word 0 <<< 20 ||| word 1 <<< 10 ||| word 2 <<< 0 := rfl

/-- The components that `compress_quaternion_smallest_three` packs: normalised, and negated if the
largest of them is negative. -/
def canonicalComponents (q : Quat D) : Fin 4 → D :=
  let n := normalizeQuaternion q
  let negate := Double.lt (n.component (largestIndex fun i ↦ Double.fabs (n.component i)))
    (Double.lit 0)
  fun i ↦ if negate then -n.component i else n.component i

/-- The index that it packs. -/
def packedIndex (q : Quat D) : Fin 4 :=
  largestIndex fun i ↦ Double.fabs ((normalizeQuaternion q).component i)

/-- **The packing loop, unrolled.** -/
theorem compress_eq_packWords (q : Quat D) :
    compressQuaternionSmallestThree q =
      packWords (packedIndex q) fun k ↦
        packComponent (canonicalComponents q ((packedIndex q).succAbove k)) := by
  have hindices : List.finRange 4 = [0, 1, 2, 3] := rfl
  rw [compressQuaternionSmallestThree]
  simp only [hindices]
  show (List.foldl (fun (acc : UInt32 × ℕ) (i : Fin 4) ↦
    if i = packedIndex q then acc
    else (acc.1 ||| (packComponent (canonicalComponents q i) <<< UInt32.ofNat (20 - acc.2 * 10)),
      acc.2 + 1)) (UInt32.ofNat (packedIndex q).val <<< 30, 0) [0, 1, 2, 3]).1 = _
  generalize packedIndex q = largest
  match largest with
  | 0 => rfl
  | 1 => rfl
  | 2 => rfl
  | 3 => rfl

/-! ### The fields of the word -/

/-- A field behind which the lower bits are free. -/
theorem toNat_shift_or {high low : UInt32} (shift : ℕ) (hshift : shift < 32)
    (hhigh : high.toNat * 2 ^ shift < 2 ^ 32) (hlow : low.toNat < 2 ^ shift) :
    (high <<< UInt32.ofNat shift ||| low).toNat = high.toNat * 2 ^ shift + low.toNat := by
  have hamount : (UInt32.ofNat shift).toNat % 32 = shift := by
    rw [UInt32.toNat_ofNat', Nat.mod_eq_of_lt (a := shift) (by omega),
      Nat.mod_eq_of_lt (by omega)]
  rw [UInt32.toNat_or, UInt32.toNat_shiftLeft, hamount, Nat.shiftLeft_eq, Nat.mod_eq_of_lt hhigh,
    ← Nat.shiftLeft_eq, ← Nat.shiftLeft_add_eq_or_of_lt hlow, Nat.shiftLeft_eq]

theorem toNat_packWords (largest : Fin 4) {word : Fin 3 → UInt32}
    (h : ∀ k, (word k).toNat < 1024) :
    (packWords largest word).toNat =
      largest.val * 2 ^ 30 + ((word 0).toNat * 2 ^ 20 +
        ((word 1).toNat * 2 ^ 10 + (word 2).toNat)) := by
  have h₀ := h 0
  have h₁ := h 1
  have h₂ := h 2
  have hindex : (UInt32.ofNat largest.val).toNat = largest.val := by
    rw [UInt32.toNat_ofNat', Nat.mod_eq_of_lt (by omega)]
  have hlast : word 2 <<< 0 = word 2 := UInt32.shiftLeft_zero
  have htwo : (word 1 <<< 10 ||| word 2).toNat = (word 1).toNat * 2 ^ 10 + (word 2).toNat :=
    toNat_shift_or 10 (by decide) (by omega) (by omega)
  have hthree : (word 0 <<< 20 ||| (word 1 <<< 10 ||| word 2)).toNat =
      (word 0).toNat * 2 ^ 20 + (word 1 <<< 10 ||| word 2).toNat :=
    toNat_shift_or 20 (by decide) (by omega) (by omega)
  have hfour : (UInt32.ofNat largest.val <<< 30 |||
      (word 0 <<< 20 ||| (word 1 <<< 10 ||| word 2))).toNat =
        (UInt32.ofNat largest.val).toNat * 2 ^ 30 +
          (word 0 <<< 20 ||| (word 1 <<< 10 ||| word 2)).toNat :=
    toNat_shift_or 30 (by decide) (by omega) (by omega)
  rw [packWords_eq, hlast, UInt32.or_assoc, UInt32.or_assoc, ← htwo, ← hthree, hfour, hindex]

/-- A field of the word, read back. -/
theorem toNat_field (packed : UInt32) (shift bits : ℕ) (hshift : shift < 32) (hbits : bits ≤ 32) :
    ((packed >>> UInt32.ofNat shift) &&& UInt32.ofNat (2 ^ bits - 1)).toNat =
      packed.toNat / 2 ^ shift % 2 ^ bits := by
  have hamount : (UInt32.ofNat shift).toNat % 32 = shift := by
    rw [UInt32.toNat_ofNat', Nat.mod_eq_of_lt (a := shift) (by omega),
      Nat.mod_eq_of_lt (by omega)]
  have hmask : (UInt32.ofNat (2 ^ bits - 1)).toNat = 2 ^ bits - 1 := by
    have hpow : 2 ^ bits ≤ 2 ^ 32 := Nat.pow_le_pow_right (by decide) hbits
    have hpos : 0 < 2 ^ bits := Nat.two_pow_pos bits
    rw [UInt32.toNat_ofNat', Nat.mod_eq_of_lt (by omega)]
  rw [UInt32.toNat_and, UInt32.toNat_shiftRight, hamount, hmask, Nat.and_two_pow_sub_one_eq_mod,
    Nat.shiftRight_eq_div_pow]

/-- The upper bits of the word. -/
theorem toNat_index_packWords (largest : Fin 4) {word : Fin 3 → UInt32}
    (h : ∀ k, (word k).toNat < 1024) : (packWords largest word >>> 30).toNat = largest.val := by
  have h₀ := h 0
  have h₁ := h 1
  have h₂ := h 2
  have hshift : (packWords largest word >>> 30).toNat = (packWords largest word).toNat >>> 30 :=
    UInt32.toNat_shiftRight _ _
  rw [hshift, toNat_packWords largest h, Nat.shiftRight_eq_div_pow]
  omega

/-- The index field. -/
theorem index_packWords (largest : Fin 4) {word : Fin 3 → UInt32}
    (h : ∀ k, (word k).toNat < 1024) :
    ((packWords largest word >>> 30) &&& 0x3).toNat = largest.val := by
  have hshift := toNat_index_packWords largest h
  have hmask : ((packWords largest word >>> 30) &&& 0x3).toNat =
      (packWords largest word >>> 30).toNat &&& 2 ^ 2 - 1 := UInt32.toNat_and _ _
  rw [hmask, hshift, Nat.and_two_pow_sub_one_eq_mod]
  omega

/-- The three words. -/
theorem words_packWords (largest : Fin 4) {word : Fin 3 → UInt32}
    (h : ∀ k, (word k).toNat < 1024) :
    (packWords largest word >>> 20) &&& 0x3FF = word 0 ∧
      (packWords largest word >>> 10) &&& 0x3FF = word 1 ∧
      packWords largest word &&& 0x3FF = word 2 := by
  have h₀ := h 0
  have h₁ := h 1
  have h₂ := h 2
  refine ⟨UInt32.toNat_inj.mp ?_, UInt32.toNat_inj.mp ?_, UInt32.toNat_inj.mp ?_⟩
  · refine (toNat_field _ 20 10 (by decide) (by decide)).trans ?_
    rw [toNat_packWords largest h]
    omega
  · refine (toNat_field _ 10 10 (by decide) (by decide)).trans ?_
    rw [toNat_packWords largest h]
    omega
  · have hzero : packWords largest word >>> 0 = packWords largest word := UInt32.shiftRight_zero
    rw [← hzero]
    refine (toNat_field _ 0 10 (by decide) (by decide)).trans ?_
    rw [toNat_packWords largest h]
    omega

/-! ### Unpacking -/

/-- The components that `decompress_quaternion_smallest_three` restores, before it normalises. -/
def restoredComponents (largest : Fin 4) (u : Fin 3 → D) : Fin 4 → D :=
  let sumSq := (List.finRange 3).foldl (fun sum k ↦ sum + u k * u k) (Double.lit 0)
  let residual := Double.lit 1 - sumSq
  largest.insertNth
    (Double.sqrt (if Double.lt (Double.lit 0) residual then residual else Double.lit 0)) u

/-- The unpacking loops, over an index and the components as they are read. -/
def unpackLoops (largest : ℕ) (read : ℕ → D) : Fin 4 → D :=
  let fill := fun (acc : (Fin 4 → D) × ℕ) (i : Fin 4) ↦
    if i.val = largest then acc else (Function.update acc.1 i (read acc.2), acc.2 + 1)
  let values := ((List.finRange 4).foldl fill (fun _ ↦ Double.lit 0, 0)).1
  let addSquare := fun (acc : D) (i : Fin 4) ↦
    if i.val = largest then acc else acc + values i * values i
  let sumSq := (List.finRange 4).foldl addSquare (Double.lit 0)
  let residual := Double.lit 1 - sumSq
  let last := Double.sqrt (if Double.lt (Double.lit 0) residual then residual else Double.lit 0)
  fun i ↦ if i.val = largest then last else values i

theorem unpackLoops_eq (largest : Fin 4) (read : ℕ → D) (i : Fin 4) :
    unpackLoops largest.val read i = restoredComponents largest (fun k ↦ read k.val) i := by
  match largest with
  | 0 => fin_cases i <;> rfl
  | 1 => fin_cases i <;> rfl
  | 2 => fin_cases i <;> rfl
  | 3 => fin_cases i <;> rfl

/-- **The unpacking loops, unrolled.** -/
theorem decompress_packWords (largest : Fin 4) {word : Fin 3 → UInt32}
    (h : ∀ k, (word k).toNat < 1024) :
    (decompressQuaternionSmallestThree (packWords largest word) : Quat D) =
      let value := restoredComponents largest fun k ↦ unpackComponent (word k)
      normalizeQuaternion ⟨value 0, value 1, value 2, value 3⟩ := by
  obtain ⟨hword₀, hword₁, hword₂⟩ := words_packWords largest h
  have hloops (packed : UInt32) : (decompressQuaternionSmallestThree packed : Quat D) =
      let value := unpackLoops ((packed >>> 30) &&& 0x3).toNat fun k ↦
        unpackComponent ([(packed >>> 20) &&& 0x3FF, (packed >>> 10) &&& 0x3FF,
          packed &&& 0x3FF].getD k 0)
      normalizeQuaternion ⟨value 0, value 1, value 2, value 3⟩ := rfl
  have hread : (fun k : Fin 3 ↦ (unpackComponent ([word 0, word 1, word 2].getD k.val 0) : D)) =
      fun k ↦ unpackComponent (word k) := by
    funext k
    match k with
    | 0 => rfl
    | 1 => rfl
    | 2 => rfl
  rw [hloops, index_packWords largest h, hword₀, hword₁, hword₂]
  simp only [unpackLoops_eq, hread]

end StylyNetSync
