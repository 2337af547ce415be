import StylyNetSync.Core.JsonGrammar

/-!
# Arguments in any rendering

The grammar of RFC 8259 leaves a writer several ways to put a character into a string: its UTF-8
bytes, a short escape where there is one, an escape of four hexadecimal digits, or two such escapes
that form a surrogate pair. Peers differ in what they choose. Whatever they choose, character by
character, and wherever they put whitespace, the decoder yields the UTF-8 encoding of the strings.
-/

namespace StylyNetSync

open TextParser JsonParser

/-- A hexadecimal digit of this value, in either case. -/
def IsHexDigit (k : ℕ) (digit : UInt8) : Prop :=
  (k < 10 ∧ digit.toNat = 48 + k) ∨
    (10 ≤ k ∧ k < 16 ∧ (digit.toNat = 87 + k ∨ digit.toNat = 55 + k))

instance (k : ℕ) : DecidablePred (IsHexDigit k) := fun _ ↦ instDecidableOr

/-- Four hexadecimal digits that spell a number. -/
def IsHex4 (n : ℕ) (digits : Bytes) : Prop :=
  ∃ a b c d, digits = [a, b, c, d] ∧ IsHexDigit (n / 4096) a ∧ IsHexDigit (n / 256 % 16) b ∧
    IsHexDigit (n / 16 % 16) c ∧ IsHexDigit (n % 16) d

/-- The characters that have an escape of one letter, with this letter: the quotation mark, the
backslash, the slash, backspace, form feed, line feed, carriage return and tab. -/
def shortForms : List (ℕ × UInt8) :=
  [(34, 34), (92, 92), (47, 47), (8, 98), (12, 102), (10, 110), (13, 114), (9, 116)]

/-- The texts that stand for a character inside a string. -/
inductive CharacterForm (c : Char) : Bytes → Prop
  | raw (hcontrol : 0x20 ≤ c.toNat) (hquote : c.toNat ≠ 34) (hescape : c.toNat ≠ 92) :
      CharacterForm c (String.utf8EncodeChar c)
  | short {escape : UInt8} (h : (c.toNat, escape) ∈ shortForms) : CharacterForm c [92, escape]
  | unicode {digits : Bytes} (h : IsHex4 c.toNat digits) : CharacterForm c (92 :: 117 :: digits)
  | surrogates {high low : Bytes} (hbeyond : 0xFFFF < c.toNat)
      (hhigh : IsHex4 (0xD800 + (c.toNat - 0x10000) / 0x400) high)
      (hlow : IsHex4 (0xDC00 + (c.toNat - 0x10000) % 0x400) low) :
      CharacterForm c (92 :: 117 :: (high ++ 92 :: 117 :: low))

/-- The texts that stand for a string. -/
def StringForm (s : List Char) (text : Bytes) : Prop :=
  ∃ forms, List.Forall₂ CharacterForm s forms ∧ text = 34 :: (forms.flatten ++ [34])

/-- The UTF-8 encoding of a string. -/
def utf8 (s : List Char) : Bytes := s.flatMap String.utf8EncodeChar

namespace JsonParser

/-! ### UTF-8 -/

theorem continuation_eq (x : ℕ) : x &&& 63 ||| 128 = x % 64 + 128 := by
  have hmask : x &&& 63 = x % 64 := Nat.and_two_pow_sub_one_eq_mod x 6
  have hor : ∀ y < 64, y ||| 128 = y + 128 := by decide
  rw [hmask, hor _ (Nat.mod_lt x (by decide))]

/-- The parser writes UTF-8. -/
theorem appendUtf8_eq (c : Char) : appendUtf8 c.val = String.utf8EncodeChar c := by
  have hbyte (x : UInt32) : x.toUInt8 = UInt8.ofNat x.toNat := (UInt8.ofNat_uInt32ToNat x).symm
  have hlead : ∀ y < 32, y ||| 192 = y + 192 := by decide
  have hlead3 : ∀ y < 16, y ||| 224 = y + 224 := by decide
  have hlead4 : ∀ y < 8, y ||| 240 = y + 240 := by decide
  have hvalid : c.val.toNat < 0x110000 := by
    have := c.valid
    rcases this with h | ⟨-, h⟩ <;> omega
  rw [appendUtf8, String.utf8EncodeChar]
  simp only [UInt32.lt_iff_toNat_lt, hbyte, UInt32.toNat_or, UInt32.toNat_and,
    UInt32.toNat_shiftRight, UInt32.reduceToNat, Nat.reduceMod, continuation_eq,
    Nat.shiftRight_eq_div_pow, Nat.reducePow]
  by_cases h1 : c.val.toNat ≤ 127
  · rw [if_pos (by omega), if_pos h1]
  by_cases h2 : c.val.toNat ≤ 2047
  · rw [if_neg (by omega), if_pos (by omega), if_neg h1, if_pos h2,
      hlead _ (by omega), Nat.mod_eq_of_lt (a := c.val.toNat / 64) (by omega)]
  by_cases h3 : c.val.toNat ≤ 65535
  · rw [if_neg (by omega), if_neg (by omega), if_pos (by omega), if_neg h1, if_neg h2, if_pos h3,
      hlead3 _ (by omega), Nat.mod_eq_of_lt (a := c.val.toNat / 4096) (by omega)]
  · rw [if_neg (by omega), if_neg (by omega), if_neg (by omega), if_neg h1, if_neg h2, if_neg h3,
      hlead4 _ (by omega), Nat.mod_eq_of_lt (a := c.val.toNat / 262144) (by omega)]

/-- The bytes of a character that needs no escape are none of those with a meaning in a string. -/
theorem plain_of_utf8EncodeChar {c : Char} (hquote : c.toNat ≠ 34) (hescape : c.toNat ≠ 92) :
    ∀ byte ∈ String.utf8EncodeChar c, byte ≠ 34 ∧ byte ≠ 92 := by
  have hplain (n : ℕ) (hlt : n < 256) (h34 : n ≠ 34) (h92 : n ≠ 92) :
      UInt8.ofNat n ≠ 34 ∧ UInt8.ofNat n ≠ 92 := by
    constructor <;> intro heq <;> have htoNat := congrArg UInt8.toNat heq <;>
      simp at htoNat <;> omega
  have hquote' : c.val.toNat ≠ 34 := hquote
  have hescape' : c.val.toNat ≠ 92 := hescape
  intro byte hbyte
  rw [String.utf8EncodeChar] at hbyte
  split_ifs at hbyte <;> simp only [List.mem_cons, List.not_mem_nil, or_false] at hbyte
  · rw [hbyte]
    exact hplain _ (by omega) hquote' hescape'
  · rcases hbyte with rfl | rfl <;> exact hplain _ (by omega) (by omega) (by omega)
  · rcases hbyte with rfl | rfl | rfl <;> exact hplain _ (by omega) (by omega) (by omega)
  · rcases hbyte with rfl | rfl | rfl | rfl <;> exact hplain _ (by omega) (by omega) (by omega)

/-! ### Escapes -/

theorem hexValue_of_isHexDigit {k : ℕ} {digit : UInt8} (h : IsHexDigit k digit) :
    k < 16 ∧ hexValue digit = some (UInt32.ofNat k) := by
  have hdecimal : ∀ k < 10, hexValue (UInt8.ofNat (48 + k)) = some (UInt32.ofNat k) := by decide
  have hlower : ∀ k < 16, 10 ≤ k → hexValue (UInt8.ofNat (87 + k)) = some (UInt32.ofNat k) := by
    decide
  have hupper : ∀ k < 16, 10 ≤ k → hexValue (UInt8.ofNat (55 + k)) = some (UInt32.ofNat k) := by
    decide
  obtain ⟨hk, hdigit⟩ | ⟨hmin, hk, hdigit | hdigit⟩ := h
  · rw [← UInt8.ofNat_toNat (x := digit), hdigit]
    exact ⟨by omega, hdecimal k hk⟩
  · rw [← UInt8.ofNat_toNat (x := digit), hdigit]
    exact ⟨hk, hlower k hk hmin⟩
  · rw [← UInt8.ofNat_toNat (x := digit), hdigit]
    exact ⟨hk, hupper k hk hmin⟩

theorem hexStep_eq {v k : ℕ} {digit : UInt8} (hv : v < 4096) (h : IsHexDigit k digit) :
    hexStep (UInt32.ofNat v) digit = some (UInt32.ofNat (16 * v + k)) := by
  obtain ⟨hk, hvalue⟩ := hexValue_of_isHexDigit h
  rw [hexStep, hvalue, Option.map_some, Option.some.injEq, ← UInt32.toNat_inj]
  have hor : 16 * v + k = 16 * v ||| k := Nat.two_pow_add_eq_or_of_lt (i := 4) hk v
  simp only [UInt32.toNat_or, UInt32.toNat_shiftLeft, UInt32.toNat_ofNat', UInt32.reduceToNat,
    Nat.reduceMod, Nat.reducePow, Nat.shiftLeft_eq]
  rw [Nat.mod_eq_of_lt (a := v) (by omega), Nat.mod_eq_of_lt (a := k) (by omega),
    Nat.mod_eq_of_lt (by omega), Nat.mod_eq_of_lt (by omega), Nat.mul_comm v, ← hor]

/-- The parser reads the number that four digits spell. -/
theorem complete_isHex4 {n : ℕ} {digits : Bytes} (h : IsHex4 n digits) :
    Complete parseHex4 digits (UInt32.ofNat n) := by
  obtain ⟨a, b, c, d, rfl, ha, hb, hc, hd⟩ := h
  have hn : n / 4096 < 16 := (hexValue_of_isHexDigit ha).1
  have h₁ : hexStep 0 a = some (UInt32.ofNat (n / 4096)) := by
    simpa using hexStep_eq (v := 0) (by omega) ha
  have h₂ : hexStep (UInt32.ofNat (n / 4096)) b = some (UInt32.ofNat (n / 256)) := by
    rw [hexStep_eq (by omega) hb]
    congr 2
    omega
  have h₃ : hexStep (UInt32.ofNat (n / 256)) c = some (UInt32.ofNat (n / 16)) := by
    rw [hexStep_eq (by omega) hc]
    congr 2
    omega
  have h₄ : hexStep (UInt32.ofNat (n / 16)) d = some (UInt32.ofNat n) := by
    rw [hexStep_eq (by omega) hd]
    congr 2
    omega
  refine complete_hex4 rfl ?_
  simp only [List.foldlM_cons, List.foldlM_nil, h₁, h₂, h₃, h₄, Option.bind_eq_bind,
    Option.bind_some, Option.pure_def]

/-- An escape of a character of the basic plane. -/
theorem reads_unicodeEscape {c : Char} {digits : Bytes} (h : IsHex4 c.toNat digits) :
    Reads parseUnicodeEscape digits c.val Anything := by
  have hval : UInt32.ofNat c.toNat = c.val := UInt32.ofNat_toNat
  have hhex := (complete_isHex4 h).toReads Anything
  rw [hval] at hhex
  refine hhex.bind_nil ?_
  -- a character is no surrogate
  have hscalar : ¬(0xD800 ≤ c.val && c.val ≤ 0xDBFF) = true := by
    simp only [Bool.and_eq_true, decide_eq_true_eq, UInt32.le_iff_toNat_le, UInt32.reduceToNat]
    have hvalid := c.valid
    rcases hvalid with hlow | ⟨hhigh, -⟩ <;> omega
  rw [if_neg hscalar]
  exact Reads.pure c.val

/-- Two escapes that form a surrogate pair. -/
theorem reads_surrogatePair {c : Char} {high low : Bytes} (hbeyond : 0xFFFF < c.toNat)
    (hhigh : IsHex4 (0xD800 + (c.toNat - 0x10000) / 0x400) high)
    (hlow : IsHex4 (0xDC00 + (c.toNat - 0x10000) % 0x400) low) :
    Reads parseUnicodeEscape (high ++ 92 :: 117 :: low) c.val Anything := by
  have hvalid : c.toNat < 0x110000 := by
    have hscalar := c.valid
    have hval : c.val.toNat = c.toNat := rfl
    rcases hscalar with hlow | ⟨-, hmax⟩ <;> omega
  obtain ⟨q, hq⟩ : ∃ q, q = (c.toNat - 0x10000) / 0x400 := ⟨_, rfl⟩
  obtain ⟨r, hr⟩ : ∃ r, r = (c.toNat - 0x10000) % 0x400 := ⟨_, rfl⟩
  have hqlt : q < 0x400 := by omega
  have hrlt : r < 0x400 := by omega
  rw [← hq] at hhigh
  rw [← hr] at hlow
  have hpair : ((UInt32.ofNat (0xD800 + q) - 0xD800) <<< 10 + (UInt32.ofNat (0xDC00 + r) - 0xDC00) +
      0x10000) = c.val := by
    rw [← UInt32.toNat_inj]
    simp only [UInt32.toNat_add, UInt32.toNat_sub, UInt32.toNat_shiftLeft, UInt32.toNat_ofNat',
      UInt32.reduceToNat, Nat.shiftLeft_eq, Nat.reducePow, Nat.reduceMod]
    have hval : c.val.toNat = c.toNat := rfl
    omega
  have hhighRange : (0xD800 ≤ UInt32.ofNat (0xD800 + q) && UInt32.ofNat (0xD800 + q) ≤ 0xDBFF) =
      true := by
    simp only [Bool.and_eq_true, decide_eq_true_eq, UInt32.le_iff_toNat_le, UInt32.toNat_ofNat',
      UInt32.reduceToNat, Nat.reducePow]
    omega
  have hlowRange : (0xDC00 ≤ UInt32.ofNat (0xDC00 + r) && UInt32.ofNat (0xDC00 + r) ≤ 0xDFFF) =
      true := by
    simp only [Bool.and_eq_true, decide_eq_true_eq, UInt32.le_iff_toNat_le, UInt32.toNat_ofNat',
      UInt32.reduceToNat, Nat.reducePow]
    omega
  refine ((complete_isHex4 hhigh).toReads Anything).bind ?_ fun _ _ ↦ trivial
  rw [if_pos hhighRange]
  intro after error _
  simp only [List.cons_append, parseLowSurrogate, (complete_isHex4 hlow).reads after error,
    hlowRange, if_true, hpair]

/-! ### Strings -/

/-- Bytes without a meaning are taken over. -/
theorem reads_plain {bytes chunk value out : Bytes}
    (hplain : ∀ byte ∈ bytes, byte ≠ 34 ∧ byte ≠ 92)
    (h : Reads (loop parseCharacter (out ++ bytes)) chunk value Anything) :
    Reads (loop parseCharacter out) (bytes ++ chunk) value Anything := by
  induction bytes generalizing out with
  | nil => rwa [List.append_nil] at h
  | cons byte bytes ih =>
    rw [List.forall_mem_cons] at hplain
    rw [← List.singleton_append, ← List.append_assoc] at h
    rw [← List.singleton_append, List.append_assoc]
    exact Reads.loop_cons parseCharacter_takes
      ((complete_plain out hplain.1.1 hplain.1.2).toReads Anything) (ih hplain.2 h)
      fun _ _ ↦ trivial

/-- An escape of the form `u` and what the parser makes of it. -/
theorem reads_escape {digits out : Bytes} {codePoint : UInt32}
    (h : Reads parseUnicodeEscape digits codePoint Anything) :
    Reads (parseCharacter out) (92 :: 117 :: digits) (.inl (out ++ appendUtf8 codePoint))
      Anything := by
  show Reads (parseCharacter out) ([92] ++ ([117] ++ digits)) _ _
  refine ((Complete.satisfy _ rfl).toReads Anything).bind ?_ fun _ _ ↦ trivial
  rw [if_neg (by decide), if_neg (by decide)]
  refine ((Complete.satisfy _ rfl).toReads Anything).bind ?_ fun _ _ ↦ trivial
  exact h.bind_nil (Reads.pure _)

/-- **A character is read in every form**, as its UTF-8 encoding. -/
theorem reads_character {c : Char} {form chunk value out : Bytes} (hform : CharacterForm c form)
    (h : Reads (loop parseCharacter (out ++ String.utf8EncodeChar c)) chunk value Anything) :
    Reads (loop parseCharacter out) (form ++ chunk) value Anything := by
  have hround {form : Bytes}
      (hread : Reads (parseCharacter out) form (.inl (out ++ String.utf8EncodeChar c)) Anything) :
      Reads (loop parseCharacter out) (form ++ chunk) value Anything :=
    Reads.loop_cons parseCharacter_takes hread h fun _ _ ↦ trivial
  cases hform with
  | raw _ hquote hescape => exact reads_plain (plain_of_utf8EncodeChar hquote hescape) h
  | @short escape hshort =>
    have hforms : ∀ form ∈ shortForms,
        shortEscape form.2 = some (UInt8.ofNat form.1) ∧ form.1 ≤ 127 := by decide
    obtain ⟨hletter, hascii⟩ := hforms _ hshort
    have hencoded : String.utf8EncodeChar c = [UInt8.ofNat c.toNat] := if_pos hascii
    refine hround ?_
    rw [hencoded]
    exact (complete_shortEscape out hletter).toReads Anything
  | unicode hdigits =>
    refine hround ?_
    rw [← appendUtf8_eq]
    exact reads_escape (reads_unicodeEscape hdigits)
  | surrogates hbeyond hhigh hlow =>
    refine hround ?_
    rw [← appendUtf8_eq]
    exact reads_escape (reads_surrogatePair hbeyond hhigh hlow)

/-- The characters of a string up to its closing quote. -/
theorem reads_characters {s : List Char} {forms : List Bytes}
    (h : List.Forall₂ CharacterForm s forms) (out : Bytes) :
    Reads (loop parseCharacter out) (forms.flatten ++ [34]) (out ++ utf8 s) Anything := by
  induction h generalizing out with
  | nil =>
    rw [utf8, List.flatMap_nil, List.append_nil]
    exact Reads.loop_end parseCharacter_takes ((complete_closingQuote out).toReads Anything)
  | @cons c form s forms hform _ ih =>
    have hrest := ih (out ++ String.utf8EncodeChar c)
    rw [List.append_assoc] at hrest
    rw [List.flatten_cons, List.append_assoc, utf8, List.flatMap_cons]
    exact reads_character hform hrest

variable {D : Type} [NumberText D]

/-- **A string is read in every form.** -/
theorem readsAs_string (levels : ℕ) (s : List Char) (text : Bytes) (h : StringForm s text) :
    ReadsAs levels text (.string (utf8 s) : JsonValue D) := by
  obtain ⟨forms, hforms, rfl⟩ := h
  refine ⟨⟨34, _, rfl, by decide, by decide⟩, ?_⟩
  have hstring : Reads parseString (34 :: (forms.flatten ++ [34])) (utf8 s) Anything :=
    ((Complete.satisfy (a := 34) _ rfl).toReads Anything).bind (reads_characters hforms [])
      fun _ _ ↦ trivial
  refine (reads_whitespace whitespace_nil).nil_bind (Reads.look ?_) fun rest _ ↦
    stopsAt_cons (by decide) _
  rw [if_neg (by decide), if_neg (by decide), if_pos rfl]
  have hvalue : Reads (parseString >>= fun value ↦ pure (JsonValue.string value : JsonValue D))
      (34 :: (forms.flatten ++ [34])) (.string (utf8 s)) Anything :=
    hstring.bind_nil (Reads.pure _)
  exact hvalue.mono fun _ _ ↦ trivial

end JsonParser

/-- **Every rendering of the arguments is understood.** Whatever form each character takes and
wherever there is whitespace, the decoder yields the UTF-8 encoding of each string, in order. -/
theorem renderings_decode (D : Type) [Double D] [NumberText D] (strings : List (List Char))
    (text : Bytes) (h : DocumentForm StringForm strings text) :
    decodeJsonStringArray D text = some (strings.map utf8) :=
  decode_of_documentForm (fun s ↦ .string (utf8 s)) (readsAs_string 63) h

/-- The text `[ "\ud83D\uDe00é" , "\/"]` with a line feed behind it: an emoji as a surrogate pair in
mixed case, a letter in UTF-8, and a slash with its escape. -/
def mixedRendering : Bytes :=
  [91, 32, 34, 92, 117, 100, 56, 51, 68, 92, 117, 68, 101, 48, 48, 195, 169, 34, 32, 44, 32,
    34, 92, 47, 34, 93, 10]

theorem renderings_decode_mixed :
    decodeJsonStringArray ℚ mixedRendering = some [[240, 159, 152, 128, 195, 169], [47]] := by
  have hhigh : IsHex4 (0xD800 + ((Char.ofNat 0x1F600).toNat - 0x10000) / 0x400) [100, 56, 51, 68] :=
    ⟨_, _, _, _, rfl, by decide, by decide, by decide, by decide⟩
  have hlow : IsHex4 (0xDC00 + ((Char.ofNat 0x1F600).toNat - 0x10000) % 0x400) [68, 101, 48, 48] :=
    ⟨_, _, _, _, rfl, by decide, by decide, by decide, by decide⟩
  have hemoji := CharacterForm.surrogates (by decide) hhigh hlow
  have hletter : CharacterForm (Char.ofNat 0xE9) [195, 169] :=
    .raw (by decide) (by decide) (by decide)
  have hslash : CharacterForm (Char.ofNat 47) [92, 47] := .short (by decide)
  have hfirst : StringForm [Char.ofNat 0x1F600, Char.ofNat 0xE9]
      [34, 92, 117, 100, 56, 51, 68, 92, 117, 68, 101, 48, 48, 195, 169, 34] :=
    ⟨_, .cons hemoji (.cons hletter .nil), rfl⟩
  have hsecond : StringForm [Char.ofNat 47] [34, 92, 47, 34] := ⟨_, .cons hslash .nil, rfl⟩
  have hspace : Whitespace [32] := by decide
  have hform : DocumentForm StringForm [[Char.ofNat 0x1F600, Char.ofNat 0xE9], [Char.ofNat 47]]
      mixedRendering :=
    ⟨[], _, [10], whitespace_nil,
      .items (.cons hspace hfirst hspace (.last hspace hsecond whitespace_nil)), by decide, rfl⟩
  exact renderings_decode ℚ _ _ hform

end StylyNetSync
