import StylyNetSync.Protocol.BinaryIO

/-!
# Truncation of UTF-8

One routine walks back from a byte limit to the start of the character there, the other counts
characters forward. Both look at nothing but which bytes are continuation bytes. On well-formed text
that is enough: a prefix is well formed where a character starts behind it.
-/

namespace StylyNetSync

open Utf8

/-! ### By bytes -/

/-- The bytes that the walk back leaves out, but the first, are continuation bytes. -/
theorem isContinuation_of_straddleStart {value : Bytes} {cut i : ℕ}
    (h : straddleStart value cut < i) (hi : i ≤ cut) : isContinuation (value.getD i 0) = true := by
  induction cut with
  | zero => omega
  | succ cut ih =>
    rw [straddleStart] at h
    split at h
    · next hcontinues =>
      rcases Nat.lt_or_eq_of_le hi with hbelow | rfl
      · exact ih h (Nat.le_of_lt_succ hbelow)
      · exact hcontinues
    · omega

/-- The walk stops at the start of a character, if only that of the text. -/
theorem straddleStart_stops (value : Bytes) (cut : ℕ) :
    straddleStart value cut = 0 ∨
      isContinuation (value.getD (straddleStart value cut) 0) = false := by
  induction cut with
  | zero => exact .inl rfl
  | succ cut ih =>
    rw [straddleStart]
    split
    · exact ih
    · next hlead => exact .inr (Bool.eq_false_iff.mpr hlead)

/-- A prefix is well formed if the byte behind it is not a continuation byte. -/
theorem wellFormed_take_iff {value : Bytes} (h : WellFormed value) {i : ℕ} (hi : i < value.length) :
    WellFormed (value.take i) ↔ isContinuation (value.getD i 0) = false := by
  have hsplit : WellFormed (value.take i ++ value.drop i) := by rwa [List.take_append_drop]
  rw [wellFormed_iff_starts hsplit, Starts, List.head?_drop, List.getD_eq_getElem?_getD,
    List.getElem?_eq_getElem hi, Option.getD_some]
  simp

/-- **Truncation to a number of bytes keeps the longest well-formed prefix.** -/
theorem truncateUtf8Bytes_longest {value : Bytes} (h : WellFormed value) (n : ℕ) :
    truncateUtf8Bytes value n <+: value ∧ WellFormed (truncateUtf8Bytes value n) ∧
      (truncateUtf8Bytes value n).length ≤ n ∧
      ∀ front, front <+: value → WellFormed front → front.length ≤ n →
        front <+: truncateUtf8Bytes value n := by
  by_cases hshort : value.length ≤ n
  · rw [truncateUtf8Bytes_of_le hshort]
    exact ⟨List.prefix_rfl, h, hshort, fun front hfront _ _ ↦ hfront⟩
  · have hcut : truncateUtf8Bytes value n = value.take (straddleStart value n) := if_neg hshort
    have hle := straddleStart_le value n
    refine ⟨?_, ?_, length_truncateUtf8Bytes_le value n, fun front hfront hwell hlength ↦ ?_⟩
    · rw [hcut]
      exact List.take_prefix _ _
    · rw [hcut]
      rcases straddleStart_stops value n with hzero | hlead
      · rw [hzero]
        exact ⟨[], rfl⟩
      · exact (wellFormed_take_iff h (by omega)).mpr hlead
    · -- Behind a longer prefix there would be one of the continuation bytes walked over.
      have hfront_eq : front = value.take front.length := List.prefix_iff_eq_take.mp hfront
      rw [hcut, hfront_eq]
      refine List.take_prefix_take_left ?_
      by_contra hlonger
      rw [hfront_eq, wellFormed_take_iff h (by omega)] at hwell
      rw [isContinuation_of_straddleStart (not_le.mp hlonger) hlength] at hwell
      cases hwell

/-! ### By characters -/

/-- Continuation bytes are copied without being counted. -/
theorem truncateUtf8CodePoints_append {tail : Bytes} (rest : Bytes) (n : ℕ)
    (h : ∀ byte ∈ tail, isContinuation byte = true) :
    truncateUtf8CodePoints (tail ++ rest) n = tail ++ truncateUtf8CodePoints rest n := by
  induction tail with
  | nil => rfl
  | cons byte tail ih =>
    have hbyte := h byte List.mem_cons_self
    have hrest := ih fun other hother ↦ h other (List.mem_cons_of_mem _ hother)
    simp [truncateUtf8CodePoints, hbyte, hrest]

/-- On an encoded text, characters are taken. -/
theorem truncateUtf8CodePoints_flatMap (cs : List Char) (n : ℕ) :
    truncateUtf8CodePoints (cs.flatMap String.utf8EncodeChar) n =
      (cs.take n).flatMap String.utf8EncodeChar := by
  induction cs generalizing n with
  | nil => rw [List.take_nil, List.flatMap_nil, truncateUtf8CodePoints]
  | cons c cs ih =>
    obtain ⟨lead, tail, hencode, hlead, htail⟩ := exists_utf8EncodeChar_eq c
    rw [List.flatMap_cons, hencode, List.cons_append]
    cases n with
    | zero => simp [truncateUtf8CodePoints, hlead]
    | succ n =>
      have htaken := truncateUtf8CodePoints_append (cs.flatMap String.utf8EncodeChar) n htail
      rw [List.take_succ_cons, List.flatMap_cons, hencode, List.cons_append, ← ih, ← htaken]
      simp [truncateUtf8CodePoints, hlead]

/-- **Truncation to a number of characters keeps exactly that many, if there are.** -/
theorem truncateUtf8CodePoints_exact {value : Bytes} (h : WellFormed value) (n : ℕ) :
    truncateUtf8CodePoints value n <+: value ∧ WellFormed (truncateUtf8CodePoints value n) ∧
      codePoints (truncateUtf8CodePoints value n) = min n (codePoints value) := by
  obtain ⟨cs, rfl⟩ := h
  rw [truncateUtf8CodePoints_flatMap, codePoints_flatMap, codePoints_flatMap, List.length_take]
  refine ⟨?_, ⟨cs.take n, rfl⟩, rfl⟩
  conv_rhs => rw [← List.take_append_drop n cs, List.flatMap_append]
  exact List.prefix_append _ _

/-! ### Both -/

/-- **Truncation is maximal and never splits a character.** -/
theorem truncateUtf8_maximal (value : Bytes) (h : WellFormed value) (n : ℕ) :
    (truncateUtf8Bytes value n <+: value ∧ WellFormed (truncateUtf8Bytes value n) ∧
        (truncateUtf8Bytes value n).length ≤ n ∧
        ∀ front, front <+: value → WellFormed front → front.length ≤ n →
          front <+: truncateUtf8Bytes value n) ∧
      (∀ front, front = truncateUtf8CodePoints value n ↔
        front <+: value ∧ WellFormed front ∧ codePoints front = min n (codePoints value)) ∧
      (value.length ≤ n → truncateUtf8Bytes value n = value) ∧
      (codePoints value ≤ n → truncateUtf8CodePoints value n = value) ∧
      truncateUtf8Bytes (truncateUtf8Bytes value n) n = truncateUtf8Bytes value n ∧
      truncateUtf8CodePoints (truncateUtf8CodePoints value n) n =
        truncateUtf8CodePoints value n := by
  obtain ⟨hbegins, hwell, hcount⟩ := truncateUtf8CodePoints_exact h n
  refine ⟨truncateUtf8Bytes_longest h n, fun front ↦ ⟨?_, ?_⟩, truncateUtf8Bytes_of_le,
    truncateUtf8CodePoints_of_le, truncateUtf8Bytes_of_le (length_truncateUtf8Bytes_le value n),
    truncateUtf8CodePoints_of_le ?_⟩
  · rintro rfl
    exact ⟨hbegins, hwell, hcount⟩
  · rintro ⟨hfront, hfront_well, hfront_count⟩
    exact hfront_well.eq_of_codePoints hwell hfront hbegins (hfront_count.trans hcount.symm)
  · rw [hcount]
    exact Nat.min_le_left _ _

/-- A letter and a character of three bytes, truncated in its middle. -/
theorem truncateUtf8_maximal_euro :
    truncateUtf8Bytes [97, 0xE2, 0x82, 0xAC] 3 = [97] ∧
      WellFormed (truncateUtf8Bytes [97, 0xE2, 0x82, 0xAC] 3) := by
  have hwell : WellFormed [97, 0xE2, 0x82, 0xAC] := ⟨['a', '€'], by decide⟩
  exact ⟨by decide, (truncateUtf8_maximal _ hwell 3).1.2.1⟩

end StylyNetSync
