import Mathlib.Data.List.Basic
import Mathlib.Tactic.Common

/-!
# UTF-8 as byte lists

Well-formed UTF-8 is the image of the encoder of Unicode scalar values, `String.utf8EncodeChar`.
Every encoded character is one byte that is not of the form `10xxxxxx` followed by at most three
that are, so counting the former counts characters (`codePoints_flatMap`) and bounds the byte length
(`WellFormed.length_le`).
-/

namespace Utf8

/-- A continuation byte, `10xxxxxx`. -/
def isContinuation (byte : UInt8) : Bool := byte &&& 0xC0 == 0x80

/-- The bytes that start a character: on well-formed text, the number of characters. -/
def codePoints (s : List UInt8) : ℕ := s.countP fun byte ↦ !isContinuation byte

/-- The bytes are the UTF-8 encoding of a sequence of Unicode scalar values. -/
def WellFormed (s : List UInt8) : Prop := ∃ cs : List Char, s = cs.flatMap String.utf8EncodeChar

theorem codePoints_append (s t : List UInt8) :
    codePoints (s ++ t) = codePoints s + codePoints t :=
  List.countP_append

/-- The two top bits of a byte assembled from masked payload bits and a marker are those of the
marker, when the mask leaves them free. -/
theorem topBits_or (x : UInt8) {mask : UInt8} (mark : UInt8) (hmask : mask &&& 0xC0 = 0) :
    (x &&& mask ||| mark) &&& 0xC0 = mark &&& 0xC0 := by
  have hdistrib : (x &&& mask ||| mark) &&& 0xC0 = (x &&& mask &&& 0xC0) ||| (mark &&& 0xC0) :=
    UInt8.toBitVec_inj.1 BitVec.and_or_distrib_right
  rw [hdistrib, UInt8.and_assoc, hmask, UInt8.and_zero, UInt8.zero_or]

theorem isContinuation_tail (x : UInt8) : isContinuation (x &&& 0x3f ||| 0x80) = true := by
  rw [isContinuation, topBits_or x 0x80 (by decide)]
  rfl

theorem isContinuation_lead (x : UInt8) {mask mark : UInt8} (hmask : mask &&& 0xC0 = 0)
    (hmark : mark &&& 0xC0 = 0xC0) : isContinuation (x &&& mask ||| mark) = false := by
  rw [isContinuation, topBits_or x mark hmask, hmark]
  rfl

/-- A byte below `0x80` starts a character. -/
theorem isContinuation_ascii {x : UInt8} (h : x.toNat < 128) : isContinuation x = false := by
  rw [isContinuation, beq_eq_false_iff_ne]
  intro hx
  have hbits : x.toNat &&& 192 = 128 := by
    have := congrArg UInt8.toNat hx
    simpa using this
  have hle : x.toNat &&& 192 ≤ x.toNat := Nat.and_le_left
  omega

/-- **The shape of an encoded character**: a byte that starts it, and continuation bytes. -/
theorem exists_utf8EncodeChar_eq (c : Char) :
    ∃ lead tail, String.utf8EncodeChar c = lead :: tail ∧ isContinuation lead = false ∧
      ∀ byte ∈ tail, isContinuation byte = true := by
  have htail (x : UInt8) := isContinuation_tail x
  rcases c.utf8Size_eq with h | h | h | h
  · refine ⟨_, _, String.utf8EncodeChar_eq_singleton h, ?_, by simp⟩
    have hval : c.val.toNat ≤ 127 := by
      simpa [UInt32.le_iff_toNat_le] using Char.utf8Size_eq_one_iff.1 h
    apply isContinuation_ascii
    rw [UInt32.toNat_toUInt8]
    omega
  · exact ⟨_, _, String.utf8EncodeChar_eq_cons_cons h,
      isContinuation_lead _ (by decide) (by decide), by simp [htail]⟩
  · exact ⟨_, _, String.utf8EncodeChar_eq_cons_cons_cons h,
      isContinuation_lead _ (by decide) (by decide), by simp [htail]⟩
  · exact ⟨_, _, String.utf8EncodeChar_eq_cons_cons_cons_cons h,
      isContinuation_lead _ (by decide) (by decide), by simp [htail]⟩

theorem codePoints_continuations {tail : List UInt8}
    (h : ∀ byte ∈ tail, isContinuation byte = true) : codePoints tail = 0 := by
  rw [codePoints, List.countP_eq_zero]
  intro byte hbyte
  simp [h byte hbyte]

/-- One encoded character holds exactly one byte that is not a continuation byte. -/
theorem codePoints_utf8EncodeChar (c : Char) : codePoints (String.utf8EncodeChar c) = 1 := by
  obtain ⟨lead, tail, hencode, hlead, htail⟩ := exists_utf8EncodeChar_eq c
  rw [hencode, codePoints, List.countP_cons, hlead]
  show codePoints tail + 1 = 1
  rw [codePoints_continuations htail]

/-- Counting the bytes that start a character counts the characters. -/
theorem codePoints_flatMap (cs : List Char) :
    codePoints (cs.flatMap String.utf8EncodeChar) = cs.length := by
  induction cs with
  | nil => rfl
  | cons c cs ih =>
    rw [List.flatMap_cons, codePoints_append, codePoints_utf8EncodeChar, ih, List.length_cons,
      Nat.add_comm]

/-- A well-formed string takes at most four bytes per character. -/
theorem WellFormed.length_le {s : List UInt8} (h : WellFormed s) : s.length ≤ 4 * codePoints s := by
  obtain ⟨cs, rfl⟩ := h
  rw [codePoints_flatMap]
  induction cs with
  | nil => simp
  | cons c cs ih =>
    have := c.utf8Size_le_four
    simp only [List.flatMap_cons, List.length_append, String.length_utf8EncodeChar,
      List.length_cons]
    omega

/-! ### Where characters end -/

/-- The encoding of no character begins with that of another one. -/
theorem utf8EncodeChar_append_inj {c d : Char} {s t : List UInt8}
    (h : String.utf8EncodeChar c ++ s = String.utf8EncodeChar d ++ t) : c = d ∧ s = t := by
  have hdecode (c : Char) (s : List UInt8) :
      ByteArray.utf8DecodeChar? (String.utf8EncodeChar c ++ s).toByteArray 0 = some c := by
    rw [List.toByteArray_append]
    exact ByteArray.utf8DecodeChar?_utf8EncodeChar_append
  have hchar : some c = some d := by rw [← hdecode c s, h, hdecode d t]
  obtain rfl := Option.some_inj.mp hchar
  exact ⟨rfl, List.append_cancel_left h⟩

/-- Nothing is left, or a character starts here. -/
def Starts (rest : List UInt8) : Prop := ∀ byte ∈ rest.head?, isContinuation byte = false

theorem starts_flatMap (cs : List Char) : Starts (cs.flatMap String.utf8EncodeChar) := by
  cases cs with
  | nil => exact fun byte hbyte ↦ absurd hbyte (by simp)
  | cons c cs =>
    obtain ⟨lead, tail, hencode, hlead, -⟩ := exists_utf8EncodeChar_eq c
    intro byte hbyte
    rw [List.flatMap_cons, hencode, List.cons_append, List.head?_cons, Option.mem_some] at hbyte
    rw [← hbyte, hlead]

/-- **A prefix of well-formed text is well formed if and only if a character starts behind it.** -/
theorem wellFormed_iff_starts {front rest : List UInt8} (h : WellFormed (front ++ rest)) :
    WellFormed front ↔ Starts rest := by
  obtain ⟨cs, hcs⟩ := h
  constructor
  · rintro ⟨ds, rfl⟩
    induction ds generalizing cs with
    | nil =>
      rw [List.flatMap_nil, List.nil_append] at hcs
      rw [hcs]
      exact starts_flatMap cs
    | cons d ds ih =>
      rw [List.flatMap_cons, List.append_assoc] at hcs
      cases cs with
      | nil =>
        rw [List.flatMap_nil, List.append_eq_nil_iff] at hcs
        exact absurd hcs.1 String.utf8EncodeChar_ne_nil
      | cons c cs =>
        rw [List.flatMap_cons] at hcs
        exact ih cs (utf8EncodeChar_append_inj hcs).2
  · intro hstarts
    induction cs generalizing front with
    | nil =>
      rw [List.flatMap_nil, List.append_eq_nil_iff] at hcs
      exact ⟨[], hcs.1⟩
    | cons c cs ih =>
      rw [List.flatMap_cons] at hcs
      rcases List.append_eq_append_iff.mp hcs with ⟨inner, hencode, hrest⟩ | ⟨front', rfl, hrest⟩
      · -- The prefix ends in the first character: in front of it, or nowhere.
        obtain ⟨lead, tail, hform, -, htail⟩ := exists_utf8EncodeChar_eq c
        cases front with
        | nil => exact ⟨[], rfl⟩
        | cons first front =>
          cases inner with
          | nil =>
            rw [List.append_nil] at hencode
            exact ⟨[c], by rw [List.flatMap_singleton, hencode]⟩
          | cons byte inner =>
            rw [hform, List.cons_append, List.cons.injEq] at hencode
            have hcontinues : isContinuation byte = true := by
              refine htail byte ?_
              rw [hencode.2]
              exact List.mem_append_right _ List.mem_cons_self
            have hlead := hstarts byte (by rw [hrest]; rfl)
            rw [hlead] at hcontinues
            cases hcontinues
      · obtain ⟨ds, rfl⟩ := ih hrest.symm
        exact ⟨c :: ds, rfl⟩

/-- Where a character starts, there is at least one, unless nothing is left. -/
theorem Starts.eq_nil {rest : List UInt8} (h : Starts rest) (hnone : codePoints rest = 0) :
    rest = [] := by
  cases rest with
  | nil => rfl
  | cons byte rest =>
    have hlead : isContinuation byte = false := h byte rfl
    rw [codePoints, List.countP_cons, hlead] at hnone
    simp at hnone

/-- A well-formed prefix is determined by the number of its characters. -/
theorem WellFormed.eq_of_codePoints {front front' s : List UInt8} (h : WellFormed front)
    (h' : WellFormed front') (hfront : front <+: s) (hfront' : front' <+: s)
    (hcount : codePoints front = codePoints front') : front = front' := by
  have hone {p q : List UInt8} (hp : WellFormed p) (hq : WellFormed q) (hpq : p <+: q)
      (hcount : codePoints p = codePoints q) : p = q := by
    obtain ⟨inner, rfl⟩ := hpq
    have hstarts : Starts inner := (wellFormed_iff_starts hq).mp hp
    rw [codePoints_append] at hcount
    rw [hstarts.eq_nil (by omega), List.append_nil]
  rcases List.prefix_or_prefix_of_prefix hfront hfront' with hle | hle
  · exact hone h h' hle hcount
  · exact (hone h' h hle hcount.symm).symm

end Utf8
