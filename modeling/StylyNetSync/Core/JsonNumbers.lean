import StylyNetSync.Core.JsonGrammar

/-!
# Numbers as arguments

An argument that is a number is read into a floating-point value and printed again: an integer below
`10 ^ 15` in magnitude by its digits, any other value with seventeen significant digits. So the text
of a numeral survives exactly when it is one that the printer writes (`numerals_decode_iff`).

How the C library reads and prints numbers is taken from its documentation: `NumberLaws` says that
integers of up to fifteen digits are exact, and `SeventeenDigits` that seventeen digits identify a
value.
-/

namespace StylyNetSync

open TextParser JsonParser

/-! ### Numerals -/

/-- Decimal digits. -/
def Digits (text : Bytes) : Prop := ∀ c ∈ text, isDigit c = true

instance : DecidablePred Digits := fun text ↦ List.decidableBAll _ text

/-- An integer without superfluous zeros in front. -/
def WholeForm (whole : Bytes) : Prop :=
  Digits whole ∧ whole ≠ [] ∧ (whole.head? = some 48 → whole = [48])

/-- A point and digits behind it, or neither. -/
def FractionForm (point fraction : Bytes) : Prop :=
  (point = [] ∧ fraction = []) ∨ (point = [46] ∧ Digits fraction ∧ fraction ≠ [])

inductive ExponentForm : Bytes → Prop
  | none : ExponentForm []
  | some {mark : UInt8} {sign digits : Bytes} (hmark : mark = 101 ∨ mark = 69)
      (hsign : sign = [] ∨ sign = [45] ∨ sign = [43]) (hdigits : Digits digits)
      (h : digits ≠ []) : ExponentForm ([mark] ++ (sign ++ digits))

/-- The numbers of RFC 8259. -/
def IsNumberLiteral (text : Bytes) : Prop :=
  ∃ sign whole point fraction exponent, (sign = [] ∨ sign = [45]) ∧ WholeForm whole ∧
    FractionForm point fraction ∧ ExponentForm exponent ∧
    text = sign ++ whole ++ point ++ fraction ++ exponent

/-! ### Reading a numeral -/

namespace JsonParser

theorem continuesNumber_eq_false {c : UInt8} :
    continuesNumber c = false ↔ isDigit c = false ∧ c ≠ 46 ∧ c ≠ 101 ∧ c ≠ 69 := by
  simp [continuesNumber, and_assoc]

theorem stopsAt_mono {test test' : UInt8 → Bool} {after : Bytes} (h : StopsAt test after)
    (htest : ∀ c, test c = false → test' c = false) : StopsAt test' after :=
  fun c hc ↦ htest c (h c hc)

theorem stopsAt_digits {digits : Bytes} (hdigits : Digits digits) (h : digits ≠ [])
    {test : UInt8 → Bool} (htest : ∀ c, isDigit c = true → test c = false) (after : Bytes) :
    StopsAt test (digits ++ after) := by
  cases digits with
  | nil => exact absurd rfl h
  | cons c digits => exact stopsAt_cons (htest c (hdigits c List.mem_cons_self)) _

theorem isSign_of_isDigit (c : UInt8) (h : isDigit c = true) : isSign c = false := by
  revert c
  decide +kernel

theorem reads_sign {sign : Bytes} (h : sign = [] ∨ sign = [45] ∨ sign = [43]) :
    Reads (takeIf isSign : JsonParse Bytes) sign sign (StopsAt isSign) := by
  obtain rfl | rfl | rfl := h
  · exact Reads.takeIf_neg
  · exact Reads.takeIf_pos rfl
  · exact Reads.takeIf_pos rfl

theorem reads_exponent {exponent : Bytes} (h : ExponentForm exponent) :
    Reads parseExponent exponent exponent Delimited := by
  cases h with
  | none =>
    refine Reads.takeIf_neg.nil_bind (Reads.pure _) fun after hafter ↦ stopsAt_mono hafter ?_
    intro c hc
    obtain ⟨-, -, he, hE⟩ := continuesNumber_eq_false.mp hc
    simp [he, hE]
  | @some mark sign digits hmark hsign hdigits hne =>
    have hdigitsRead : Reads (takeWhile isDigit : JsonParse Bytes) digits digits Delimited :=
      (Reads.takeWhile hdigits).mono fun after hafter ↦
        stopsAt_mono hafter fun c hc ↦ (continuesNumber_eq_false.mp hc).1
    have hmarkRead : Reads (takeIf fun c ↦ c == 101 || c == 69 : JsonParse Bytes) [mark] [mark]
        Anything := Reads.takeIf_pos (by obtain rfl | rfl := hmark <;> rfl)
    refine hmarkRead.bind ?_ fun _ _ ↦ trivial
    rw [if_neg (by simp)]
    refine (reads_sign hsign).bind (hdigitsRead.bind_nil (Reads.pure _)) fun after _ ↦ ?_
    exact stopsAt_digits hdigits hne isSign_of_isDigit after

/-- No digit stands where the exponent of a numeral may begin, and no point. -/
theorem stopsAt_exponent {exponent after : Bytes} (h : ExponentForm exponent)
    (hafter : Delimited after) :
    StopsAt isDigit (exponent ++ after) ∧ StopsAt (· == 46) (exponent ++ after) := by
  cases h with
  | none =>
    refine ⟨stopsAt_mono hafter fun c hc ↦ (continuesNumber_eq_false.mp hc).1,
      stopsAt_mono hafter fun c hc ↦ ?_⟩
    exact beq_eq_false_iff_ne.mpr (continuesNumber_eq_false.mp hc).2.1
  | some hmark _ _ _ =>
    obtain rfl | rfl := hmark
    · exact ⟨stopsAt_cons (by decide) _, stopsAt_cons (by decide) _⟩
    · exact ⟨stopsAt_cons (by decide) _, stopsAt_cons (by decide) _⟩

variable {D : Type} [NumberText D]

/-- **A numeral is read** as the value the C library gives it. Leading zeros do no harm. -/
theorem reads_number {sign whole point fraction exponent : Bytes} (hsign : sign = [] ∨ sign = [45])
    (hwhole : Digits whole) (hne : whole ≠ []) (hfraction : FractionForm point fraction)
    (hexponent : ExponentForm exponent) :
    Reads parseNumber (sign ++ (whole ++ (point ++ (fraction ++ exponent))))
      (.number (NumberText.strtod (sign ++ whole ++ point ++ fraction ++ exponent)) : JsonValue D)
      Delimited := by
  have hsignRead : Reads (takeIf isSign : JsonParse Bytes) sign sign (StopsAt isSign) :=
    reads_sign (hsign.imp_right .inl)
  have hend : Reads
      (if whole.isEmpty && fraction.isEmpty then reject "invalid number"
        else parseExponent >>= fun exponent ↦
          pure (.number (NumberText.strtod (sign ++ whole ++ point ++ fraction ++ exponent))) :
        JsonParse (JsonValue D)) exponent
      (.number (NumberText.strtod (sign ++ whole ++ point ++ fraction ++ exponent))) Delimited := by
    rw [if_neg (by simp [hne])]
    exact (reads_exponent hexponent).bind_nil (Reads.pure _)
  have htail : Reads
      (takeIf (· == 46) >>= fun point : Bytes ↦ parseFraction (!point.isEmpty) >>=
        fun fraction : Bytes ↦
        if whole.isEmpty && fraction.isEmpty then reject "invalid number"
        else parseExponent >>= fun exponent ↦
          pure (.number (NumberText.strtod (sign ++ whole ++ point ++ fraction ++ exponent))) :
        JsonParse (JsonValue D)) (point ++ (fraction ++ exponent))
      (.number (NumberText.strtod (sign ++ whole ++ point ++ fraction ++ exponent))) Delimited := by
    obtain ⟨rfl, rfl⟩ | ⟨rfl, hdigits, -⟩ := hfraction
    · have hnothing : Reads (parseFraction false) [] [] Anything := Reads.pure []
      exact Reads.takeIf_neg.nil_bind (hnothing.nil_bind hend fun _ _ ↦ trivial)
        fun after hafter ↦ (stopsAt_exponent hexponent hafter).2
    · have hpoint : Reads (takeIf (· == 46) : JsonParse Bytes) [46] [46] Anything :=
        Reads.takeIf_pos rfl
      exact hpoint.bind ((Reads.takeWhile hdigits).bind hend
        fun after hafter ↦ (stopsAt_exponent hexponent hafter).1) fun _ _ ↦ trivial
  refine hsignRead.bind ((Reads.takeWhile hwhole).bind htail fun after hafter ↦ ?_) fun after _ ↦ ?_
  · obtain ⟨rfl, rfl⟩ | ⟨rfl, -, -⟩ := hfraction
    · exact (stopsAt_exponent hexponent hafter).1
    · exact stopsAt_cons (by decide) _
  · rw [List.append_assoc]
    exact stopsAt_digits hwhole hne isSign_of_isDigit _

/-- The first byte of a numeral decides how a value is parsed. -/
theorem numeral_first {sign whole : Bytes} (hsign : sign = [] ∨ sign = [45])
    (hwhole : Digits whole) (hne : whole ≠ []) (rest : Bytes) :
    ∃ c tail, sign ++ (whole ++ rest) = c :: tail ∧ (c = 45 ∨ isDigit c = true) := by
  obtain rfl | rfl := hsign
  · cases whole with
    | nil => exact absurd rfl hne
    | cons c whole => exact ⟨c, whole ++ rest, rfl, .inr (hwhole c List.mem_cons_self)⟩
  · exact ⟨45, whole ++ rest, rfl, .inl rfl⟩

theorem readsAs_numeral {sign whole point fraction exponent : Bytes}
    (hsign : sign = [] ∨ sign = [45]) (hwhole : Digits whole) (hne : whole ≠ [])
    (hfraction : FractionForm point fraction) (hexponent : ExponentForm exponent) (levels : ℕ) :
    ReadsAs levels (sign ++ whole ++ point ++ fraction ++ exponent)
      (.number (NumberText.strtod (sign ++ whole ++ point ++ fraction ++ exponent)) :
        JsonValue D) := by
  have hread := reads_number (D := D) hsign hwhole hne hfraction hexponent
  have hassoc : sign ++ whole ++ point ++ fraction ++ exponent =
      sign ++ (whole ++ (point ++ (fraction ++ exponent))) := by simp only [List.append_assoc]
  obtain ⟨c, tail, htext, hc⟩ := numeral_first hsign hwhole hne (point ++ (fraction ++ exponent))
  rw [hassoc] at hread ⊢
  rw [htext] at hread ⊢
  have hother : ∀ c : UInt8, c = 45 ∨ isDigit c = true → isWhitespace c = false ∧ c ≠ 93 ∧
      c ≠ 123 ∧ c ≠ 91 ∧ c ≠ 34 ∧ c ≠ 116 ∧ c ≠ 102 ∧ c ≠ 110 := by
    decide +kernel
  obtain ⟨hspace, hclosing, h1, h2, h3, h4, h5, h6⟩ := hother c hc
  refine ⟨⟨c, tail, rfl, hspace, hclosing⟩, ?_⟩
  refine (reads_whitespace whitespace_nil).nil_bind (Reads.look ?_) fun rest _ ↦
    stopsAt_cons hspace _
  rw [if_neg h1, if_neg h2, if_neg h3, if_neg h4, if_neg h5, if_neg h6]
  exact hread

theorem readsAs_number {text : Bytes} (h : IsNumberLiteral text) (levels : ℕ) :
    ReadsAs levels text (.number (NumberText.strtod text) : JsonValue D) := by
  obtain ⟨sign, whole, point, fraction, exponent, hsign, hwhole, hfraction, hexponent, rfl⟩ := h
  exact readsAs_numeral hsign hwhole.1 hwhole.2.1 hfraction hexponent levels

end JsonParser

theorem not_isNumberLiteral_null : ¬IsNumberLiteral (ascii "null") := by
  rintro ⟨sign, whole, point, fraction, exponent, hsign, ⟨hwhole, hne, -⟩, -, -, htext⟩
  obtain ⟨c, tail, hfirst, hc⟩ :=
    numeral_first hsign hwhole hne (point ++ (fraction ++ exponent))
  simp only [List.append_assoc] at htext
  rw [hfirst, show ascii "null" = 110 :: [117, 108, 108] by decide, List.cons.injEq] at htext
  rw [← htext.1] at hc
  revert hc
  decide

/-! ### Integers -/

/-- The digits of a natural number. -/
def decimal (n : ℕ) : Bytes := ascii (toString n)

theorem decimal_eq_map (n : ℕ) :
    decimal n = (Nat.toDigits 10 n).map fun c ↦ UInt8.ofNat c.toNat := by
  rw [decimal, ascii, Nat.toString_eq_repr, Nat.toList_repr]

theorem toNat_of_isDigit {c : Char} (h : c.isDigit = true) :
    (UInt8.ofNat c.toNat).toNat = c.toNat ∧ 48 ≤ c.toNat ∧ c.toNat ≤ 57 := by
  have hrange : 48 ≤ c.toNat ∧ c.toNat ≤ 57 := by
    simpa [Char.isDigit, UInt32.le_iff_toNat_le] using h
  refine ⟨?_, hrange⟩
  rw [UInt8.toNat_ofNat']
  omega

theorem isDigit_of_mem_toDigits {n : ℕ} {c : Char} (h : c ∈ Nat.toDigits 10 n) :
    c.isDigit = true :=
  Nat.isDigit_of_mem_toDigits (by decide) (by decide) h

theorem digits_decimal (n : ℕ) : Digits (decimal n) := by
  intro byte hbyte
  rw [decimal_eq_map, List.mem_map] at hbyte
  obtain ⟨c, hc, rfl⟩ := hbyte
  obtain ⟨htoNat, hlow, hhigh⟩ := toNat_of_isDigit (isDigit_of_mem_toDigits hc)
  simp only [isDigit, Bool.and_eq_true, decide_eq_true_eq, UInt8.le_iff_toNat_le, htoNat]
  exact ⟨hlow, hhigh⟩

theorem decimal_ne_nil (n : ℕ) : decimal n ≠ [] := by
  rw [decimal_eq_map, Ne, List.map_eq_nil_iff]
  exact Nat.toDigits_ne_nil

/-- The digits of a number spell it. -/
theorem foldl_decimal (n : ℕ) :
    (decimal n).foldl (fun n d ↦ 10 * n + (d.toNat - 48)) 0 = n := by
  have hstep : ∀ (v : ℕ), ∀ c ∈ Nat.toDigits 10 n,
      10 * v + ((UInt8.ofNat c.toNat).toNat - 48) = 10 * v + (c.toNat - '0'.toNat) := by
    intro v c hc
    rw [(toNat_of_isDigit (isDigit_of_mem_toDigits hc)).1]
    rfl
  rw [decimal_eq_map, List.foldl_map, List.foldl_ext _ _ _ hstep, ← Nat.ofDigitChars_eq_foldl,
    Nat.ofDigitChars_ten_toDigits]

theorem ascii_append (s t : String) : ascii (s ++ t) = ascii s ++ ascii t := by
  rw [ascii, ascii, ascii, String.toList_append, List.map_append]

theorem ascii_toString (n : ℤ) :
    ascii (toString n) = (if n < 0 then [45] else []) ++ decimal n.natAbs := by
  rw [Int.toString_eq_repr, Int.repr_eq_if]
  by_cases h : 0 ≤ n
  · rw [if_pos h, if_neg (by omega), show n.toNat = n.natAbs by omega]
    rfl
  · rw [if_neg h, if_pos (by omega), ascii_append, show (-n).toNat = n.natAbs by omega]
    rfl

theorem sign_toString (n : ℤ) :
    (if n < 0 then [45] else [] : Bytes) = [] ∨ (if n < 0 then [45] else [] : Bytes) = [45] := by
  split
  · exact .inr rfl
  · exact .inl rfl

/-- The text of an integer is read. -/
theorem JsonParser.readsAs_toString {D : Type} [NumberText D] (n : ℤ) (levels : ℕ) :
    ReadsAs levels (ascii (toString n))
      (.number (NumberText.strtod (ascii (toString n))) : JsonValue D) := by
  have hread := readsAs_numeral (D := D) (sign_toString n) (digits_decimal n.natAbs)
    (decimal_ne_nil n.natAbs) (.inl ⟨rfl, rfl⟩) .none levels
  rwa [List.append_nil, List.append_nil, List.append_nil, ← ascii_toString] at hread

/-! ### What the C library promises -/

/-- Integers below `10 ^ 15` in magnitude are values of the type, and reading their digits is
exact. -/
class NumberLaws (D : Type) [Double D] [NumberText D] : Prop where
  strtod_toString {n : ℤ} (h : |n| < 10 ^ 15) :
    (NumberText.strtod (ascii (toString n)) : D) = Double.lit n
  isFinite_lit {n : ℤ} (h : |n| < 10 ^ 15) : Double.isFinite (Double.lit n : D) = true
  toInt_lit {n : ℤ} (h : |n| < 10 ^ 15) : Double.toInt (Double.lit n : D) = n
  eq_lit {n : ℤ} (h : |n| < 10 ^ 15) : Double.eq (Double.lit n : D) (Double.lit n) = true
  fabs_lit {n : ℤ} (h : |n| < 10 ^ 15) :
    Double.lt (Double.fabs (Double.lit n : D)) (Double.lit 1000000000000000) = true
  toInt_lt {x : D} (h : Double.lt (Double.fabs x) (Double.lit 1000000000000000) = true) :
    |Double.toInt x| < 10 ^ 15

/-- Seventeen significant digits identify a value. -/
class SeventeenDigits (D : Type) [Double D] [NumberText D] : Prop where
  strtod_formatG17 {x : D} (h : Double.isFinite x = true) :
    NumberText.strtod (NumberText.formatG17 x) = x

/-! ### Exact readers -/

/-- A numeral of digits alone, behind a sign. -/
theorem ratNumeral_digits {text : Bytes} {n : ℕ} (h : text.dropWhile isSign = decimal n) :
    ratNumeral text = (if text.head? = some 45 then -1 else 1) * n := by
  have hwhole : (decimal n).takeWhile isDigit = decimal n :=
    List.takeWhile_eq_self_iff.mpr (digits_decimal n)
  have htail : (decimal n).dropWhile isDigit = [] :=
    List.dropWhile_eq_nil_iff.mpr (digits_decimal n)
  simp only [ratNumeral, h, hwhole, htail, List.head?_nil, reduceCtorEq, if_false,
    List.append_nil, foldl_decimal, List.dropWhile_nil, List.drop_nil, List.foldl_nil,
    List.length_nil]
  norm_num

theorem ratNumeral_toString (n : ℤ) : ratNumeral (ascii (toString n)) = n := by
  obtain ⟨c, rest, hdecimal⟩ := List.exists_cons_of_ne_nil (decimal_ne_nil n.natAbs)
  have hc : isDigit c = true := digits_decimal n.natAbs c (hdecimal ▸ List.mem_cons_self)
  have hunsigned : (decimal n.natAbs).dropWhile isSign = decimal n.natAbs := by
    rw [hdecimal, List.dropWhile_cons_of_neg (by simp [isSign_of_isDigit c hc])]
  have hminus : c ≠ 45 := by
    rintro rfl
    exact absurd hc (by decide)
  rw [ascii_toString]
  by_cases h : n < 0
  · have habs : (n.natAbs : ℤ) = -n := by omega
    have hsigned : ([45] ++ decimal n.natAbs).dropWhile isSign = decimal n.natAbs := hunsigned
    rw [if_pos h, ratNumeral_digits hsigned, ← Int.cast_natCast, habs]
    simp
  · have habs : (n.natAbs : ℤ) = n := by omega
    rw [if_neg h, List.nil_append, ratNumeral_digits hunsigned, ← Int.cast_natCast, habs]
    simp [hdecimal, hminus]

instance : NumberLaws ℚ where
  strtod_toString _ := ratNumeral_toString _
  isFinite_lit _ := rfl
  toInt_lit _ := Double.ratTrunc_intCast _
  eq_lit _ := decide_eq_true rfl
  fabs_lit {n} h := by
    have hcast : |(n : ℚ)| < 1000000000000000 := by exact_mod_cast h
    exact decide_eq_true hcast
  toInt_lt {x} h := by
    have hlt : |x| < 1000000000000000 := of_decide_eq_true h
    have htrunc := (Double.abs_ratTrunc_le x).trans_lt hlt
    exact_mod_cast htrunc

/-- The integers, as floating-point values without a fraction. -/
instance : Double ℤ where
  lit := Double.ratTrunc
  lt a b := decide (a < b)
  le a b := decide (a ≤ b)
  eq a b := decide (a = b)
  isFinite _ := true
  isNaN _ := false
  fabs n := |n|
  floor n := n
  sqrt n := Nat.sqrt n.toNat
  fmod := Int.tmod
  toInt n := n

instance : NumberText ℤ where
  strtod text := Double.ratTrunc (ratNumeral text)
  formatG17 n := ascii (toString n)

theorem ratTrunc_ratNumeral_toString (n : ℤ) :
    Double.ratTrunc (ratNumeral (ascii (toString n))) = n := by
  rw [ratNumeral_toString, Double.ratTrunc_intCast]

instance : NumberLaws ℤ where
  strtod_toString {n} _ :=
    (ratTrunc_ratNumeral_toString n).trans (Double.ratTrunc_intCast n).symm
  isFinite_lit _ := rfl
  toInt_lit _ := Double.ratTrunc_intCast _
  eq_lit _ := decide_eq_true rfl
  fabs_lit {n} h := by
    have hn : (Double.lit n : ℤ) = n := Double.ratTrunc_intCast n
    rw [hn]
    exact decide_eq_true h
  toInt_lt h := of_decide_eq_true h

instance : SeventeenDigits ℤ where
  strtod_formatG17 {n} _ := ratTrunc_ratNumeral_toString n

/-! ### Printing a number -/

section Printing

variable {D : Type} [Double D] [NumberText D]

/-- The numbers that are printed by their digits. -/
def isShortInteger (value : D) : Bool :=
  Double.eq value (Double.lit (Double.toInt value)) &&
    Double.lt (Double.fabs value) (Double.lit 1000000000000000)

theorem formatNumber_eq (value : D) :
    JsonValue.formatNumber value =
      if Double.isFinite value = false then ascii "null"
      else if isShortInteger value = true then ascii (toString (Double.toInt value))
      else NumberText.formatG17 value := by
  rw [JsonValue.formatNumber, isShortInteger]
  cases Double.isFinite value <;> rfl

theorem formatNumber_of_isShortInteger {value : D} (hfinite : Double.isFinite value = true)
    (h : isShortInteger value = true) :
    JsonValue.formatNumber value = ascii (toString (Double.toInt value)) := by
  rw [formatNumber_eq, hfinite, if_neg (by simp), if_pos h]

theorem formatNumber_of_not_isShortInteger {value : D} (hfinite : Double.isFinite value = true)
    (h : isShortInteger value = false) :
    JsonValue.formatNumber value = NumberText.formatG17 value := by
  rw [formatNumber_eq, hfinite, if_neg (by simp), if_neg (by simp [h])]

theorem formatNumber_of_not_isFinite {value : D} (h : Double.isFinite value = false) :
    JsonValue.formatNumber value = ascii "null" := by
  rw [formatNumber_eq, if_pos h]

variable [NumberLaws D]

theorem isShortInteger_lit {n : ℤ} (h : |n| < 10 ^ 15) :
    isShortInteger (Double.lit n : D) = true := by
  rw [isShortInteger, NumberLaws.toInt_lit h, NumberLaws.eq_lit h, NumberLaws.fabs_lit h]
  rfl

theorem formatNumber_lit {n : ℤ} (h : |n| < 10 ^ 15) :
    JsonValue.formatNumber (Double.lit n : D) = ascii (toString n) := by
  rw [formatNumber_of_isShortInteger (NumberLaws.isFinite_lit h) (isShortInteger_lit h),
    NumberLaws.toInt_lit h]

end Printing

/-- A text that the printer writes: the digits of an integer below `10 ^ 15` in magnitude, or a
finite value that is no such integer, with seventeen significant digits. -/
def IsPrinted (D : Type) [Double D] [NumberText D] (text : Bytes) : Prop :=
  (∃ n : ℤ, |n| < 10 ^ 15 ∧ text = ascii (toString n)) ∨
    ∃ x : D, Double.isFinite x = true ∧ isShortInteger x = false ∧ text = NumberText.formatG17 x

/-- The text of a numeral is printed back exactly when it is a text that the printer writes. -/
theorem formatNumber_strtod_iff (D : Type) [Double D] [NumberText D] [NumberLaws D]
    [SeventeenDigits D] {text : Bytes} (h : IsNumberLiteral text) :
    JsonValue.formatNumber (NumberText.strtod text : D) = text ↔ IsPrinted D text := by
  constructor
  · intro hprinted
    by_cases hfinite : Double.isFinite (NumberText.strtod text : D) = true
    · by_cases hshort : isShortInteger (NumberText.strtod text : D) = true
      · rw [formatNumber_of_isShortInteger hfinite hshort] at hprinted
        have hlt := NumberLaws.toInt_lt (Bool.and_eq_true_iff.mp hshort).2
        exact .inl ⟨_, hlt, hprinted.symm⟩
      · have hlong := (Bool.not_eq_true _).mp hshort
        rw [formatNumber_of_not_isShortInteger hfinite hlong] at hprinted
        exact .inr ⟨_, hfinite, hlong, hprinted.symm⟩
    · -- an overflow is printed as a word
      rw [formatNumber_of_not_isFinite ((Bool.not_eq_true _).mp hfinite)] at hprinted
      exact absurd (hprinted ▸ h) not_isNumberLiteral_null
  · rintro (⟨n, hn, rfl⟩ | ⟨x, hfinite, hlong, rfl⟩)
    · rw [NumberLaws.strtod_toString hn, formatNumber_lit hn]
    · rw [SeventeenDigits.strtod_formatG17 hfinite,
        formatNumber_of_not_isShortInteger hfinite hlong]

/-- **Which numbers keep their text.** An array of numerals is always decoded, and the outputs are
the texts of the numerals exactly when each of them is a text that the printer writes. -/
theorem numerals_decode_iff (D : Type) [Double D] [NumberText D] [NumberLaws D] [SeventeenDigits D]
    (literals : List Bytes) (text : Bytes)
    (h : DocumentForm (fun literal form ↦ form = literal ∧ IsNumberLiteral literal) literals text) :
    (decodeJsonStringArray D text).isSome = true ∧
      (decodeJsonStringArray D text = some literals ↔
        ∀ literal ∈ literals, IsPrinted D literal) := by
  have hdecode := decode_of_documentForm (D := D)
    (fun literal ↦ .number (NumberText.strtod literal))
    (fun _ _ hform ↦ hform.1 ▸ readsAs_number hform.2 63) h
  have hliterals : ∀ literal ∈ literals, IsNumberLiteral literal := fun literal hmem ↦
    let ⟨_, hform⟩ := h.exists_form literal hmem
    hform.2
  have hkept := List.map_inj_left (l := literals) (g := id)
    (f := fun literal ↦ (JsonValue.number (NumberText.strtod literal : D)).argumentText)
  rw [List.map_id] at hkept
  rw [hdecode, Option.some.injEq, hkept]
  refine ⟨rfl, forall₂_congr fun literal hmem ↦ ?_⟩
  exact formatNumber_strtod_iff D (hliterals literal hmem)

/-- Two short integers and one of seventeen digits. -/
theorem numerals_decode_integers :
    decodeJsonStringArray ℤ (ascii "[ 42,-7,12345678901234568]") =
      some [ascii "42", ascii "-7", ascii "12345678901234568"] := by
  have hfirst : IsNumberLiteral (ascii "42") :=
    ⟨[], [52, 50], [], [], [], .inl rfl, ⟨by decide, by decide, by decide⟩, .inl ⟨rfl, rfl⟩, .none,
      by decide⟩
  have hsecond : IsNumberLiteral (ascii "-7") :=
    ⟨[45], [55], [], [], [], .inr rfl, ⟨by decide, by decide, by decide⟩, .inl ⟨rfl, rfl⟩, .none,
      by decide⟩
  have hlong : IsNumberLiteral (ascii "12345678901234568") :=
    ⟨[], ascii "12345678901234568", [], [], [], .inl rfl, ⟨by decide, by decide, by decide⟩,
      .inl ⟨rfl, rfl⟩, .none, by decide⟩
  have hspace : Whitespace [32] := by decide
  have hform : DocumentForm (fun literal form ↦ form = literal ∧ IsNumberLiteral literal)
      [ascii "42", ascii "-7", ascii "12345678901234568"] (ascii "[ 42,-7,12345678901234568]") :=
    ⟨[], _, [], whitespace_nil, .items (.cons hspace ⟨rfl, hfirst⟩ whitespace_nil
      (.cons whitespace_nil ⟨rfl, hsecond⟩ whitespace_nil
        (.last whitespace_nil ⟨rfl, hlong⟩ whitespace_nil))), whitespace_nil, by decide⟩
  refine (numerals_decode_iff ℤ _ _ hform).2.mpr fun literal hliteral ↦ ?_
  simp only [List.mem_cons, List.not_mem_nil, or_false] at hliteral
  obtain rfl | rfl | rfl := hliteral
  · exact .inl ⟨42, by norm_num, by decide +kernel⟩
  · exact .inl ⟨-7, by norm_num, by decide +kernel⟩
  · exact .inr ⟨12345678901234568, rfl, by decide +kernel, by decide +kernel⟩

/-- `[1.0,100000000000000000]` comes out as `1` and `1e+17`. -/
theorem numerals_lose_text :
    ¬∀ literals text, DocumentForm (fun literal form ↦ form = literal ∧ IsNumberLiteral literal)
        literals text → decodeJsonStringArray ℚ text = some literals := by
  intro h
  have hpoint : IsNumberLiteral (ascii "1.0") :=
    ⟨[], [49], [46], [48], [], .inl rfl, ⟨by decide, by decide, by decide⟩,
      .inr ⟨rfl, by decide, by decide⟩, .none, by decide⟩
  have hlarge : IsNumberLiteral (ascii "100000000000000000") :=
    ⟨[], ascii "100000000000000000", [], [], [], .inl rfl, ⟨by decide, by decide, by decide⟩,
      .inl ⟨rfl, rfl⟩, .none, by decide⟩
  have hdecode := h [ascii "1.0", ascii "100000000000000000"] (ascii "[1.0,100000000000000000]")
    ⟨[], _, [], whitespace_nil, .items (.cons whitespace_nil ⟨rfl, hpoint⟩ whitespace_nil
      (.last whitespace_nil ⟨rfl, hlarge⟩ whitespace_nil)), whitespace_nil, by decide⟩
  have hrun : decodeJsonStringArray ℚ (ascii "[1.0,100000000000000000]") =
      some [ascii "1", ascii "1e+17"] := by decide +kernel
  rw [hrun] at hdecode
  exact absurd hdecode (by decide)

end StylyNetSync
