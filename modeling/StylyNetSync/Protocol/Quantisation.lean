import StylyNetSync.Foundation.Extended
import StylyNetSync.Foundation.NearestInteger
import StylyNetSync.Protocol.PoseCodec

/-!
# What quantising yields

The two quantisers of `pose_codec.cpp` over the rational numbers with infinities and a not-a-number.
Both clamp the integer nearest to the quotient of value and scale, and the quotient decides all: it
is a number, an infinity, or not a number, as that of two infinities.

The scales of the source are finite constants. The quantisers would accept an infinite one, too;
over it all values are quantised to zero, and zero is dequantised to what is not a number
(`infinite_scale_not_accurate`).
-/

namespace StylyNetSync

open Extended

/-! ### Rounding and clamping -/

/-- The source's rounding of a number is rounding to the nearest integer, half to even. -/
theorem roundHalfToEven_finite (x : ℚ) :
    roundHalfToEven (finite x) = finite (roundEven x : ℚ) := by
  have heven (n : ℤ) : Double.eq (Double.fmod (finite (n : ℚ)) (Double.lit 2)) (Double.lit 0) =
      true ↔ Even n := by
    show decide ((n : ℚ) - 2 * Double.ratTrunc ((n : ℚ) / 2) = 0) = true ↔ Even n
    rw [decide_eq_true_iff]
    exact remainder_two_eq_zero_iff n
  have hhalf : (0.5 : ℚ) = 1 / 2 := by norm_num
  show (if decide (0.5 < x - ⌊x⌋) = true then finite ((⌊x⌋ : ℚ) + 1)
    else if decide (x - ⌊x⌋ < 0.5) = true then finite (⌊x⌋ : ℚ)
    else if Double.eq (Double.fmod (finite (⌊x⌋ : ℚ)) (Double.lit 2)) (Double.lit 0) = true then
      finite (⌊x⌋ : ℚ)
    else finite ((⌊x⌋ : ℚ) + 1)) = _
  simp only [heven, decide_eq_true_iff, hhalf]
  rw [roundEven]
  split_ifs
  · rw [Int.cast_add, Int.cast_one]
  · rfl
  · rfl
  · rw [Int.cast_add, Int.cast_one]

/-- The nearest integer within limits: what is beyond one of them goes there, and what is not a
number to zero. -/
def saturated (lower upper : ℤ) : Extended ℚ → ℤ
  | finite x => max lower (min (roundEven x) upper)
  | posInf => upper
  | negInf => lower
  | nan => 0

/-- **The clamp of the source is this.** -/
theorem clampRounded_eq {lower upper : ℤ} (h : lower ≤ upper) (x : Extended ℚ) :
    clampRounded x lower upper = saturated lower upper x := by
  cases x with
  | finite x =>
    have hlower : Double.lt (finite (roundEven x : ℚ)) (Double.lit lower) = true ↔
        roundEven x < lower := decide_eq_true_iff.trans Int.cast_lt
    have hupper : Double.lt (Double.lit upper) (finite (roundEven x : ℚ)) = true ↔
        upper < roundEven x := decide_eq_true_iff.trans Int.cast_lt
    have hint : Double.toInt (finite (roundEven x : ℚ)) = roundEven x :=
      Double.ratTrunc_intCast _
    have hnumber : Double.isNaN (finite x) = false := rfl
    rw [clampRounded, hnumber, if_neg Bool.false_ne_true, roundHalfToEven_finite]
    simp only [hlower, hupper, hint]
    rw [saturated]
    split_ifs <;> omega
  | posInf => rfl
  | negInf => rfl
  | nan => rfl

theorem saturated_bounds {lower upper : ℤ} (hlower : lower ≤ 0) (hupper : 0 ≤ upper)
    (x : Extended ℚ) : lower ≤ saturated lower upper x ∧ saturated lower upper x ≤ upper := by
  cases x <;> simp only [saturated] <;> omega

/-- Where the quotient is in range, no limit is met. -/
theorem saturated_of_mem {lower upper : ℤ} {x : ℚ} (hlower : (lower : ℚ) ≤ x)
    (hupper : x ≤ (upper : ℚ)) : saturated lower upper (finite x) = roundEven x := by
  have habove : lower ≤ roundEven x := le_roundEven hlower
  have hbelow : roundEven x ≤ upper := roundEven_le hupper
  rw [saturated, min_eq_left hbelow, max_eq_right habove]

/-- Over a positive scale, saturation keeps the order of the values. -/
theorem saturated_div_mono {lower upper : ℤ} (hlower : lower ≤ 0) (hupper : 0 ≤ upper) {s : ℚ}
    (hs : 0 < s) {x y : Extended ℚ} (h : Double.le x y = true) :
    saturated lower upper (x / finite s) ≤ saturated lower upper (y / finite s) := by
  rcases le_cases h with ⟨a, b, rfl, rfl, hle⟩ | rfl | rfl
  · have hround : roundEven (a / s) ≤ roundEven (b / s) :=
      roundEven_mono (div_le_div_of_nonneg_right hle hs.le)
    rw [finite_div_finite hs, finite_div_finite hs]
    simp only [saturated]
    omega
  · rw [negInf_div_finite hs]
    exact (saturated_bounds hlower hupper _).1
  · rw [posInf_div_finite hs]
    exact (saturated_bounds hlower hupper _).2

/-- Over an infinite scale every value is saturated to zero. -/
theorem saturated_div_posInf {lower upper : ℤ} (hlower : lower ≤ 0) (hupper : 0 ≤ upper)
    (x : Extended ℚ) : saturated lower upper (x / posInf) = 0 := by
  have hround : roundEven (Double.lit 0 : ℚ) = 0 := roundEven_intCast 0
  cases x with
  | finite x =>
    show max lower (min (roundEven (Double.lit 0 : ℚ)) upper) = 0
    rw [hround, min_eq_left hupper, max_eq_right hlower]
  | posInf => rfl
  | negInf => rfl
  | nan => rfl

/-- What quantising is meant to be, for values and scales that may be infinite. -/
structure IsQuantiser (lower upper : ℤ) (quantise : Extended ℚ → Extended ℚ → ℤ) : Prop where
  /-- A number is quantised to the one integer nearest to the quotient, clamped. -/
  nearest : ∀ value scale x, Double.lt (Double.lit 0) scale = true → value / scale = finite x →
    ∃ n, (∀ m, IsNearestEven x m ↔ m = n) ∧ quantise value scale = max lower (min n upper)
  /-- An infinite quotient goes to a limit, and what is not a number to zero. -/
  quotient_posInf : ∀ value scale, Double.lt (Double.lit 0) scale = true → value / scale = posInf →
    quantise value scale = upper
  quotient_negInf : ∀ value scale, Double.lt (Double.lit 0) scale = true → value / scale = negInf →
    quantise value scale = lower
  quotient_nan : ∀ value scale, Double.lt (Double.lit 0) scale = true → value / scale = nan →
    quantise value scale = 0
  /-- Over a finite scale these are the quotients of infinite values and of what is not a number. -/
  infinities : ∀ scale : ℚ, 0 < scale → quantise posInf (finite scale) = upper ∧
    quantise negInf (finite scale) = lower ∧ quantise nan (finite scale) = 0
  /-- What is dequantised is within half a scale of the value, if the quotient is in range. -/
  accurate : ∀ value scale : ℚ, 0 < scale → (lower : ℚ) ≤ value / scale →
    value / scale ≤ (upper : ℚ) → ∃ restored : ℚ,
      dequantizeSigned (quantise (finite value) (finite scale)) (finite scale) = finite restored ∧
        |restored - value| ≤ scale / 2
  /-- The order is kept. -/
  monotone : ∀ value value' scale, Double.lt (Double.lit 0) scale = true →
    Double.le value value' = true → quantise value scale ≤ quantise value' scale

/-- **Saturating the quotient is quantising.** -/
theorem IsQuantiser.of_saturated {lower upper : ℤ} (hlower : lower ≤ 0) (hupper : 0 ≤ upper)
    {quantise : Extended ℚ → Extended ℚ → ℤ}
    (h : ∀ value scale, Double.lt (Double.lit 0) scale = true →
      quantise value scale = saturated lower upper (value / scale)) :
    IsQuantiser lower upper quantise where
  nearest value scale x hscale hquotient :=
    ⟨roundEven x, fun _ ↦ isNearestEven_iff, by rw [h _ _ hscale, hquotient, saturated]⟩
  quotient_posInf value scale hscale hquotient := by rw [h _ _ hscale, hquotient, saturated]
  quotient_negInf value scale hscale hquotient := by rw [h _ _ hscale, hquotient, saturated]
  quotient_nan value scale hscale hquotient := by rw [h _ _ hscale, hquotient, saturated]
  infinities scale hscale := by
    have hpositive : Double.lt (Double.lit 0) (finite scale) = true := decide_eq_true hscale
    rw [h _ _ hpositive, h _ _ hpositive, h _ _ hpositive, posInf_div_finite hscale,
      negInf_div_finite hscale]
    exact ⟨rfl, rfl, rfl⟩
  accurate value scale hscale hmin hmax := by
    have hpositive : Double.lt (Double.lit 0) (finite scale) = true := decide_eq_true hscale
    refine ⟨roundEven (value / scale) * scale, ?_, abs_roundEven_div_mul_sub_le value hscale⟩
    rw [h _ _ hpositive, finite_div_finite hscale, saturated_of_mem hmin hmax]
    rfl
  monotone value value' scale hscale hle := by
    rw [h _ _ hscale, h _ _ hscale]
    cases scale with
    | finite scale =>
      exact saturated_div_mono hlower hupper (of_decide_eq_true hscale) hle
    | posInf =>
      rw [saturated_div_posInf hlower hupper, saturated_div_posInf hlower hupper]
    | negInf => exact absurd hscale Bool.false_ne_true
    | nan => exact absurd hscale Bool.false_ne_true

/-! ### The quantisers -/

theorem quantizeSigned_eq {value scale : Extended ℚ}
    (h : Double.lt (Double.lit 0) scale = true) :
    (quantizeSigned value scale).toInt = saturated kInt16Min kInt16Max (value / scale) := by
  have hbounds : kInt16Min ≤ saturated kInt16Min kInt16Max (value / scale) ∧
      saturated kInt16Min kInt16Max (value / scale) ≤ kInt16Max :=
    saturated_bounds (by decide) (by decide) _
  rw [quantizeSigned, h, Bool.not_true, if_neg Bool.false_ne_true, clampRounded_eq (by decide)]
  exact Int16.toInt_ofInt_of_le (le_trans (by decide) hbounds.1)
    (lt_of_le_of_lt hbounds.2 (by decide))

theorem quantizeSignedInt24_eq {value scale : Extended ℚ}
    (h : Double.lt (Double.lit 0) scale = true) :
    quantizeSignedInt24 value scale = saturated kInt24Min kInt24Max (value / scale) := by
  rw [quantizeSignedInt24, h, Bool.not_true, if_neg Bool.false_ne_true, clampRounded_eq (by decide)]

/-- A quantised integer fits its 24 bits. -/
theorem clampInt24_quantizeSignedInt24 (value scale : Extended ℚ) :
    clampInt24 (quantizeSignedInt24 value scale) = quantizeSignedInt24 value scale := by
  have hbounds : kInt24Min ≤ quantizeSignedInt24 value scale ∧
      quantizeSignedInt24 value scale ≤ kInt24Max := by
    cases h : Double.lt (Double.lit 0) scale with
    | true =>
      rw [quantizeSignedInt24_eq h]
      exact saturated_bounds (by decide) (by decide) _
    | false =>
      rw [quantizeSignedInt24, h, Bool.not_false, if_pos rfl]
      decide
  rw [clampInt24, if_neg (by omega), if_neg (by omega)]

open Scan in
/-- **Quantisation is nearest, half to even, saturating and monotone**, accurate over finite scales,
and what is quantised passes through the wire unchanged. -/
theorem quantize_exact :
    IsQuantiser kInt16Min kInt16Max (fun value scale ↦ (quantizeSigned value scale).toInt) ∧
      IsQuantiser kInt24Min kInt24Max quantizeSignedInt24 ∧
      (∀ value scale : Extended ℚ, Parses sizeMod readI16
        (writeI16 (quantizeSigned value scale)) (quantizeSigned value scale)) ∧
      ∀ value scale : Extended ℚ, Parses sizeMod readI24
        (writeI24 (quantizeSignedInt24 value scale)) (quantizeSignedInt24 value scale) := by
  refine ⟨.of_saturated (by decide) (by decide) fun value scale ↦ quantizeSigned_eq,
    .of_saturated (by decide) (by decide) fun value scale ↦ quantizeSignedInt24_eq,
    fun value scale ↦ readI16_parses _, fun value scale ↦ ?_⟩
  have hparses := readI24_parses (quantizeSignedInt24 value scale)
  rwa [clampInt24_quantizeSignedInt24] at hparses

/-- Over an infinite scale every value is quantised to zero, and zero comes back as what is not a
number. -/
theorem infinite_scale_not_accurate (value : Extended ℚ) :
    (quantizeSigned value posInf).toInt = 0 ∧ quantizeSignedInt24 value posInf = 0 ∧
      (dequantizeSigned 0 posInf : Extended ℚ) = nan :=
  ⟨(quantizeSigned_eq rfl).trans (saturated_div_posInf (by decide) (by decide) _),
    (quantizeSignedInt24_eq rfl).trans (saturated_div_posInf (by decide) (by decide) _), by decide⟩

end StylyNetSync
