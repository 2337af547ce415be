import Mathlib.Data.FinEnum
import StylyNetSync.Core.JsonParser

/-!
# RPC arguments survive their encoding

Every list of byte strings comes back from its JSON encoding (`decode_encode`), and an encoding that
was cut short is not accepted at all (`decode_cut`). Both are one argument over the parser: each
piece of the encoding is read completely or the parser fails.
-/

open TextParser

namespace StylyNetSync

namespace JsonParser

variable {D : Type}

/-! ### Every loop reads something -/

theorem parseHex4_takes : Takes 0 parseHex4 := by
  intro c value c' h
  rw [parseHex4] at h
  split at h
  · exact Takes.reject 0 _ c value c' h
  · split at h
    · exact Takes.reject 0 _ c value c' h
    · rw [Prod.mk.injEq] at h
      rw [← h.2, List.length_drop]
      omega

theorem parseLowSurrogate_takes (high : UInt32) : Takes 0 (parseLowSurrogate high) := by
  intro c value c' h
  rw [parseLowSurrogate] at h
  split at h
  · next after hrest =>
    split at h
    · next low c₁ hlow =>
      have hshort := parseHex4_takes _ _ _ hlow
      split at h <;> rw [Prod.mk.injEq] at h <;> rw [← h.2]
      · rw [hrest, List.length_cons, List.length_cons]
        simp only at hshort
        omega
      · exact Nat.le_refl _
    · rw [Prod.mk.injEq] at h
      rw [← h.2]
      exact Nat.le_refl _
  · rw [Prod.mk.injEq] at h
    rw [← h.2]
    exact Nat.le_refl _

theorem parseUnicodeEscape_takes : Takes 0 parseUnicodeEscape :=
  parseHex4_takes.bind fun _ ↦ (parseLowSurrogate_takes _).ite (Takes.pure _)

theorem parseCharacter_takes (out : Bytes) : Takes 1 (parseCharacter out) := by
  refine (Takes.satisfy _ _).bind fun c ↦ (Takes.pure _).ite ((Takes.pure _).ite ?_)
  refine ((Takes.satisfy _ _).bind (n := 0) fun escape ↦ ?_).mono (Nat.zero_le 1)
  split
  · exact Takes.pure _
  · exact (parseUnicodeEscape_takes.bind fun _ ↦ Takes.pure _).ite (Takes.reject 0 _)

theorem parseString_takes : Takes 1 parseString :=
  ((Takes.satisfy _ _).bind fun _ ↦ Takes.loop parseCharacter_takes []).mono (Nat.le_add_left 1 1)

theorem literal_eq_some {word : Bytes} {c c' : TextCursor UInt8 String}
    (h : literal word c = (some true, c')) : c'.rest.length + word.length ≤ c.rest.length := by
  rw [literal] at h
  split at h
  · next hword =>
    rw [Prod.mk.injEq] at h
    have hle := (List.isPrefixOf_iff_prefix.mp hword).length_le
    rw [← h.2, List.length_drop]
    omega
  · simp at h

theorem parseLiteral_takes {word : String} {value : JsonValue D} (h : 0 < (ascii word).length) :
    Takes 1 (parseLiteral word value) := by
  intro c v c' hrun
  obtain ⟨found, c₁, hfound, hrest⟩ := bind_eq_some hrun
  cases found with
  | true =>
    have hread := literal_eq_some hfound
    rw [if_pos rfl, pure_apply, Prod.mk.injEq] at hrest
    rw [← hrest.2]
    omega
  | false => exact absurd hrest (by simp [reject])

theorem parseExponent_takes : Takes 0 parseExponent :=
  (Takes.takeIf _).bind fun _ ↦ (Takes.pure _).ite <| (Takes.takeIf _).bind fun _ ↦
    (Takes.takeWhile _).bind fun _ ↦ Takes.pure _

theorem parseNumber_takes [NumberText D] : Takes 1 (parseNumber : JsonParse (JsonValue D)) := by
  intro c value c' h
  obtain ⟨sign, c₁, h₁, h⟩ := bind_eq_some h
  obtain ⟨whole, c₂, h₂, h⟩ := bind_eq_some h
  obtain ⟨point, c₃, h₃, h⟩ := bind_eq_some h
  obtain ⟨fraction, c₄, h₄, h⟩ := bind_eq_some h
  have hfraction : c₃.rest = fraction ++ c₄.rest := by
    rw [parseFraction] at h₄
    split at h₄
    · exact takeWhile_eq_some h₄
    · rw [pure_apply, Prod.mk.injEq, Option.some.injEq] at h₄
      rw [← h₄.1, ← h₄.2, List.nil_append]
  have hread := takeIf_eq_some h₁
  rw [takeWhile_eq_some h₂, takeIf_eq_some h₃, hfraction] at hread
  split at h
  · simp [reject] at h
  · next hdigits =>
    -- a digit was read before or behind the point
    have hsome : 0 < whole.length + fraction.length := by
      cases whole with
      | nil =>
        cases fraction with
        | nil => simp at hdigits
        | cons => simp
      | cons => simp
    have hexponent := (parseExponent_takes.bind (n := 0) fun _ ↦ Takes.pure _) c₄ value c' h
    rw [hread]
    simp only [List.length_append]
    omega

theorem parseClosing_takes (closing : UInt8) (unterminated unexpected : String) :
    Takes 1 (parseClosing closing unterminated unexpected) := by
  refine ((Takes.skipWhile _).bind (n := 1) fun _ ↦ Takes.look fun a c hc ↦ ?_).mono
    (Nat.le_add_left 1 0)
  split_ifs
  · exact (TakesAt.advance hc).bind fun _ ↦ Takes.pure _
  · exact (TakesAt.advance hc).bind fun _ ↦ Takes.pure _
  · exact Takes.reject 1 _ c

theorem parseElement_takes {element : JsonParse (JsonValue D)} (h : Takes 1 element)
    (items : List (JsonValue D)) : Takes 1 (parseElement element items) :=
  (h.bind fun _ ↦ (parseClosing_takes _ _ _).bind fun _ ↦ Takes.pure _).mono (by omega)

theorem parseMember_takes {value : JsonParse (JsonValue D)} (h : Takes 1 value)
    (members : List (Bytes × JsonValue D)) : Takes 1 (parseMember value members) :=
  ((Takes.skipWhile _).bind fun _ ↦ parseString_takes.bind fun _ ↦ (Takes.skipWhile _).bind fun _ ↦
    (Takes.satisfy _ _).bind fun _ ↦ h.bind fun _ ↦
      (parseClosing_takes _ _ _).bind fun _ ↦ Takes.pure _).mono (by omega)

theorem parseArray_takes {element : JsonParse (JsonValue D)} (h : Takes 1 element)
    {c : TextCursor UInt8 String} {a : UInt8} (hc : c.rest.head? = some a) :
    TakesAt 1 (parseArray element) c :=
  (TakesAt.advance hc).bind fun _ ↦ (Takes.skipWhile _).bind fun _ ↦ (Takes.takeIf _).bind fun _ ↦
    ((Takes.loop (parseElement_takes h) []).mono (Nat.zero_le 1)).ite (Takes.pure _)

theorem parseObject_takes {value : JsonParse (JsonValue D)} (h : Takes 1 value)
    {c : TextCursor UInt8 String} {a : UInt8} (hc : c.rest.head? = some a) :
    TakesAt 1 (parseObject value) c :=
  (TakesAt.advance hc).bind fun _ ↦ (Takes.skipWhile _).bind fun _ ↦ (Takes.takeIf _).bind fun _ ↦
    ((Takes.loop (parseMember_takes h) []).mono (Nat.zero_le 1)).ite (Takes.pure _)

theorem parseValue_takes [NumberText D] (levels : ℕ) :
    Takes 1 (parseValue levels : JsonParse (JsonValue D)) := by
  induction levels with
  | zero => exact Takes.reject 1 _
  | succ levels ih =>
    refine ((Takes.skipWhile _).bind (n := 1) fun _ ↦ Takes.look fun a c hc ↦ ?_).mono
      (Nat.le_add_left 1 0)
    -- one case for each first byte
    split_ifs
    · exact parseObject_takes ih hc
    · exact parseArray_takes ih hc
    · exact (parseString_takes.bind fun _ ↦ Takes.pure _) c
    · exact parseLiteral_takes (by decide) c
    · exact parseLiteral_takes (by decide) c
    · exact parseLiteral_takes (by decide) c
    · exact parseNumber_takes c

/-! ### Strings -/

theorem complete_closingQuote (out : Bytes) : Complete (parseCharacter out) [34] (.inr out) :=
  (Complete.satisfy _ rfl).bind_nil (Complete.pure _)

theorem complete_plain (out : Bytes) {c : UInt8} (hquote : c ≠ 34) (hescape : c ≠ 92) :
    Complete (parseCharacter out) [c] (.inl (out ++ [c])) := by
  refine (Complete.satisfy _ rfl).bind_nil ?_
  rw [if_neg hquote, if_pos hescape]
  exact Complete.pure _

theorem complete_shortEscape (out : Bytes) {escape c : UInt8} (h : shortEscape escape = some c) :
    Complete (parseCharacter out) [92, escape] (.inl (out ++ [c])) := by
  show Complete (parseCharacter out) ([92] ++ [escape]) _
  refine (Complete.satisfy _ rfl).bind ?_
  rw [if_neg (by decide), if_neg (by decide)]
  refine (Complete.satisfy _ rfl).bind_nil ?_
  simp only [h]
  exact Complete.pure _

theorem complete_hex4 {digits : Bytes} {value : UInt32} (hlen : digits.length = 4)
    (h : digits.foldlM hexStep 0 = some value) : Complete parseHex4 digits value where
  reads after error := by
    have hlong : ¬(digits ++ after).length < 4 := by
      rw [List.length_append]
      omega
    have htake : (digits ++ after).take 4 = digits := by rw [← hlen, List.take_left]
    have hdrop : (digits ++ after).drop 4 = after := by rw [← hlen, List.drop_left]
    simp only [parseHex4, if_neg hlong, htake, h, hdrop]
  cut short hpre hne error := by
    have hlt : short.length < 4 := by
      have hle := hpre.length_le
      have hneq : short.length ≠ digits.length := fun heq ↦ hne (hpre.eq_of_length heq)
      omega
    simp only [parseHex4, if_pos hlt]
    rfl

/-- A control character: its escape has the digits of its value, which is no surrogate. -/
theorem complete_control (out : Bytes) {c : UInt8} (h : c < 0x20) :
    Complete (parseCharacter out) [92, 117, 48, 48, hexDigit (c >>> 4), hexDigit (c &&& 15)]
      (.inl (out ++ [c])) := by
  have hvalue : ∀ c : UInt8, c < 0x20 →
      [48, 48, hexDigit (c >>> 4), hexDigit (c &&& 15)].foldlM hexStep 0 = some c.toUInt32 ∧
        ¬(0xD800 ≤ c.toUInt32 && c.toUInt32 ≤ 0xDBFF) = true ∧ appendUtf8 c.toUInt32 = [c] := by
    decide +kernel
  obtain ⟨hdigits, hsurrogate, hbytes⟩ := hvalue c h
  show Complete (parseCharacter out)
    ([(92 : UInt8)] ++ ([(117 : UInt8)] ++ [48, 48, hexDigit (c >>> 4), hexDigit (c &&& 15)])) _
  refine (Complete.satisfy _ rfl).bind ?_
  rw [if_neg (by decide), if_neg (by decide)]
  refine (Complete.satisfy _ rfl).bind ?_
  refine Complete.bind_nil (b := c.toUInt32) ((complete_hex4 rfl hdigits).bind_nil ?_) ?_
  · rw [if_neg hsurrogate]
    exact Complete.pure _
  · rw [hbytes]
    exact Complete.pure _

theorem complete_encodeJsonByte (out : Bytes) (c : UInt8) :
    Complete (parseCharacter out) (encodeJsonByte c) (.inl (out ++ [c])) := by
  unfold encodeJsonByte
  split
  any_goals exact complete_shortEscape out rfl
  next hquote hescape _ _ _ _ _ =>
    split
    · next hcontrol => exact complete_control out hcontrol
    · exact complete_plain out hquote hescape

/-- The contents of a string literal up to its closing quote. -/
theorem complete_characters (value out : Bytes) :
    Complete (loop parseCharacter out) (value.flatMap encodeJsonByte ++ [34]) (out ++ value) := by
  induction value generalizing out with
  | nil =>
    rw [List.append_nil]
    exact Complete.loop_end parseCharacter_takes (complete_closingQuote out)
  | cons c value ih =>
    have hrest := ih (out ++ [c])
    rw [List.append_assoc, List.singleton_append] at hrest
    rw [List.flatMap_cons, List.append_assoc]
    exact Complete.loop_cons parseCharacter_takes (complete_encodeJsonByte out c) hrest

theorem complete_parseString (value : Bytes) :
    Complete parseString (encodeJsonString value) value :=
  (Complete.satisfy (a := 34) _ rfl).bind (complete_characters value [])

/-! ### Arrays of strings -/

variable [NumberText D]

theorem complete_string (levels : ℕ) (value : Bytes) :
    Complete (parseValue (levels + 1)) (encodeJsonString value)
      (.string value : JsonValue D) := by
  refine Complete.skipWhile (by decide) (Complete.look ?_)
  rw [if_neg (by decide), if_neg (by decide), if_pos rfl]
  exact (complete_parseString value).bind_nil (Complete.pure _)

theorem complete_comma (closing : UInt8) (unterminated unexpected : String) :
    Complete (parseClosing closing unterminated unexpected) [44] false :=
  Complete.item (fun _ _ ↦ rfl) fun _ ↦ rfl

theorem complete_bracket (unterminated unexpected : String) :
    Complete (parseClosing 93 unterminated unexpected) [93] true :=
  Complete.item (fun _ _ ↦ rfl) fun _ ↦ rfl

/-- The elements of an array up to its closing bracket. -/
theorem complete_elements (levels : ℕ) (value : Bytes) (values : List Bytes)
    (items : List (JsonValue D)) :
    Complete (loop (parseElement (parseValue (levels + 1))) items)
      ([(44 : UInt8)].intercalate ((value :: values).map encodeJsonString) ++ [93])
      (.array (items ++ (value :: values).map .string)) := by
  have htakes := parseElement_takes (parseValue_takes (D := D) (levels + 1))
  induction values generalizing value items with
  | nil =>
    rw [List.map_singleton, List.intercalate_singleton]
    exact Complete.loop_end htakes <| (complete_string levels value).bind <|
      (complete_bracket _ _).bind_nil (Complete.pure _)
  | cons next values ih =>
    have hrest := ih next (items ++ [.string value])
    have hround : Complete (parseElement (parseValue (levels + 1)) items)
        (encodeJsonString value ++ [44]) (.inl (items ++ [.string value])) :=
      (complete_string levels value).bind <|
        (complete_comma 93 _ _).bind_nil (Complete.pure _)
    have hall := Complete.loop_cons htakes hround hrest
    rw [List.append_assoc] at hall
    simpa [List.intercalate_cons_cons] using hall

/-- **An array of strings is read completely or not at all.** -/
theorem complete_stringArray (levels : ℕ) (values : List Bytes) :
    Complete (parseValue (levels + 2)) (encodeJsonStringArray values)
      (.array (values.map .string) : JsonValue D) := by
  refine Complete.skipWhile (by decide) (Complete.look ?_)
  rw [if_neg (by decide), if_pos rfl]
  refine Complete.advance 91 (by simp) ?_
  cases values with
  | nil =>
    refine ⟨fun _ _ ↦ rfl, fun short hpre hne error ↦ ?_⟩
    rcases List.prefix_cons_iff.mp hpre with rfl | ⟨tail, rfl, htail⟩
    · rfl
    · exact absurd (by rw [List.prefix_nil.mp htail]; rfl) hne
  | cons value values =>
    have helements := complete_elements (D := D) levels value values []
    -- the first element begins with a quote, which is neither a space nor the closing bracket
    obtain ⟨tail, htail⟩ : ∃ tail,
        [(44 : UInt8)].intercalate ((value :: values).map encodeJsonString) ++ [93] =
          34 :: tail := by
      cases values <;> simp [encodeJsonString, List.intercalate_cons_cons]
    rw [htail] at helements ⊢
    refine Complete.skipWhile (by decide) (Complete.takeIf (by decide) ?_)
    exact helements

end JsonParser

/-! ### The decoder -/

variable {D : Type} [Double D] [NumberText D]

open JsonParser

/-- Skipping whitespace in front of an array does nothing, also where the array is cut short. -/
theorem skipWhitespace_of_isPrefix {short : Bytes} {values : List Bytes}
    (h : short <+: encodeJsonStringArray values) (error : Option String) :
    skipWhitespace ⟨short, error⟩ = (some (), ⟨short, error⟩) := by
  rcases List.prefix_cons_iff.mp h with rfl | ⟨tail, rfl, -⟩
  · rfl
  · rfl

/-- **Arguments come back from their encoding.** -/
theorem decode_encode (values : List Bytes) :
    decodeJsonStringArray D (encodeJsonStringArray values) = some values := by
  have hread := (complete_stringArray (D := D) 63 values).reads [] none
  rw [List.append_nil] at hread
  have hdocument : (document : JsonParse (JsonValue D)) { rest := encodeJsonStringArray values } =
      (some (.array (values.map .string)), ⟨[], none⟩) := by
    rw [document, bind_apply_some (skipWhitespace_of_isPrefix (List.prefix_refl _) none),
      kMaxDepth, bind_apply_some hread]
    rfl
  have hargument : (JsonValue.argumentText : JsonValue D → Bytes) ∘ .string = id := rfl
  simp only [decodeJsonStringArray, JsonValue.parse, hdocument, List.isEmpty_nil, if_true,
    List.map_map, hargument, List.map_id]

/-- **An encoding that was cut short is rejected.** -/
theorem decode_cut {short : Bytes} {values : List Bytes}
    (hpre : short <+: encodeJsonStringArray values) (hne : short ≠ encodeJsonStringArray values) :
    decodeJsonStringArray D short = none := by
  have hcut := (complete_stringArray (D := D) 63 values).cut short hpre hne none
  have hdocument : ((document : JsonParse (JsonValue D)) { rest := short }).1 = none := by
    rw [document, bind_apply_some (skipWhitespace_of_isPrefix hpre none)]
    exact bind_apply_none hcut
  rcases hrun : (document : JsonParse (JsonValue D)) { rest := short } with ⟨- | value, c⟩
  · simp only [decodeJsonStringArray, JsonValue.parse, hrun]
  · rw [hrun] at hdocument
    simp at hdocument

/-- **The codec of the arguments.** Every list of byte strings comes back from its encoding, and no
strict prefix of the encoding is accepted. -/
theorem arguments_roundTrip (values : List Bytes) :
    decodeJsonStringArray D (encodeJsonStringArray values) = some values ∧
    ∀ short, short <+: encodeJsonStringArray values → short ≠ encodeJsonStringArray values →
      decodeJsonStringArray D short = none :=
  ⟨decode_encode values, fun _ ↦ decode_cut⟩

/-- A quotation mark, a line feed and a byte that is no UTF-8, and the encoding without its
bracket. -/
theorem arguments_roundTrip_quoted :
    decodeJsonStringArray ℚ (ascii "[\"\\\"\\n\"," ++ [34, 255, 34, 93]) = some [[34, 10], [255]] ∧
    decodeJsonStringArray ℚ (ascii "[\"\\\"\\n\"," ++ [34, 255, 34]) = none := by
  have h := arguments_roundTrip (D := ℚ) [[34, 10], [255]]
  have hencoded : encodeJsonStringArray [[34, 10], [255]] =
      ascii "[\"\\\"\\n\"," ++ [34, 255, 34, 93] := by decide +kernel
  rw [hencoded] at h
  exact ⟨h.1, h.2 _ (by decide +kernel) (by decide +kernel)⟩

end StylyNetSync
