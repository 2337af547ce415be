import Mathlib.Data.Int.Log
import StylyNetSync.Core.JsonUtil
import StylyNetSync.Foundation.DoubleArith
import StylyNetSync.Foundation.TextParse

/-!
# Decoding RPC arguments

`JsonParser` of the source, a recursive-descent parser with one byte of lookahead and a limit on the
nesting, and the decoder of argument arrays on top of it. Strings are bytes: the parser does not
look into them beyond the escapes. How a number is read and printed is left to `NumberText`.
-/

/-- How the C library reads and prints a floating-point number. -/
class NumberText (D : Type) where
  /-- The value of a numeral. -/
  strtod : List UInt8 → D
  /-- The conversion `%.17g`. -/
  formatG17 : D → List UInt8

namespace StylyNetSync

/-- The bytes of a text in the program. -/
def ascii (text : String) : Bytes := text.toList.map fun c ↦ UInt8.ofNat c.toNat

inductive JsonValue (D : Type)
  | null
  | bool (value : Bool)
  | number (value : D)
  | string (value : Bytes)
  | array (items : List (JsonValue D))
  /-- The members in the order of their keys. -/
  | object (members : List (Bytes × JsonValue D))

/-- Induction over a value and everything in it. -/
theorem JsonValue.induction {D : Type} {motive : JsonValue D → Prop} (null : motive null)
    (bool : ∀ value, motive (bool value)) (number : ∀ value, motive (number value))
    (string : ∀ value, motive (string value))
    (array : ∀ items, (∀ item ∈ items, motive item) → motive (array items))
    (object : ∀ members : List (Bytes × JsonValue D), (∀ member ∈ members, motive member.2) →
      motive (object members)) (value : JsonValue D) : motive value :=
  @JsonValue.rec D motive (fun items ↦ ∀ item ∈ items, motive item)
    (fun members ↦ ∀ member ∈ members, motive member.2) (fun member ↦ motive member.2)
    null bool number string array object
    (List.forall_mem_nil _) (fun _ _ h hs ↦ List.forall_mem_cons.mpr ⟨h, hs⟩)
    (List.forall_mem_nil _) (fun _ _ h hs ↦ List.forall_mem_cons.mpr ⟨h, hs⟩)
    (fun _ _ h ↦ h) value

abbrev JsonParse (α : Type) : Type := TextParser UInt8 String α

namespace JsonParser

open TextParser

def kMaxDepth : ℕ := 64

def isWhitespace (c : UInt8) : Bool := c == 32 || c == 9 || c == 10 || c == 13

def skipWhitespace : JsonParse Unit := skipWhile isWhitespace

def literal (word : Bytes) : JsonParse Bool := fun c ↦
  if word.isPrefixOf c.rest then (some true, { c with rest := c.rest.drop word.length })
  else (some false, c)

/-! ### Strings -/

/-- The UTF-8 bytes of a code point, surrogates included. -/
def appendUtf8 (codePoint : UInt32) : Bytes :=
  if codePoint < 0x80 then [codePoint.toUInt8]
  else if codePoint < 0x800 then
    [(codePoint >>> 6 ||| 0xC0).toUInt8, (codePoint &&& 0x3F ||| 0x80).toUInt8]
  else if codePoint < 0x10000 then
    [(codePoint >>> 12 ||| 0xE0).toUInt8, (codePoint >>> 6 &&& 0x3F ||| 0x80).toUInt8,
      (codePoint &&& 0x3F ||| 0x80).toUInt8]
  else
    [(codePoint >>> 18 ||| 0xF0).toUInt8, (codePoint >>> 12 &&& 0x3F ||| 0x80).toUInt8,
      (codePoint >>> 6 &&& 0x3F ||| 0x80).toUInt8, (codePoint &&& 0x3F ||| 0x80).toUInt8]

def hexValue (c : UInt8) : Option UInt32 :=
  if 48 ≤ c && c ≤ 57 then some (c - 48).toUInt32
  else if 97 ≤ c && c ≤ 102 then some (c - 97 + 10).toUInt32
  else if 65 ≤ c && c ≤ 70 then some (c - 65 + 10).toUInt32
  else none

/-- One round of the loop of `parse_hex4`. -/
def hexStep (value : UInt32) (digit : UInt8) : Option UInt32 :=
  (hexValue digit).map (value <<< 4 ||| ·)

/-- Four hexadecimal digits, or a failure that moves nowhere. -/
def parseHex4 : JsonParse UInt32 := fun c ↦
  if c.rest.length < 4 then reject "truncated \\u escape" c
  else
    match (c.rest.take 4).foldlM hexStep 0 with
    | none => reject "invalid hex digit in \\u escape" c
    | some value => (some value, { c with rest := c.rest.drop 4 })

/-- Behind a high surrogate, the low surrogate that matches it is consumed. Anything else is left in
place, and the high surrogate stands alone; the message of a failed attempt is kept. -/
def parseLowSurrogate (high : UInt32) : JsonParse UInt32 := fun c ↦
  match c.rest with
  | 92 :: 117 :: after =>
    match parseHex4 { c with rest := after } with
    | (some low, c') =>
      if 0xDC00 ≤ low && low ≤ 0xDFFF then
        (some ((high - 0xD800) <<< 10 + (low - 0xDC00) + 0x10000), c')
      else (some high, { c' with rest := c.rest })
    | (none, c') => (some high, { c' with rest := c.rest })
  | _ => (some high, c)

def parseUnicodeEscape : JsonParse UInt32 := do
  let codePoint ← parseHex4
  if 0xD800 ≤ codePoint && codePoint ≤ 0xDBFF then parseLowSurrogate codePoint
  else pure codePoint

/-- The escapes of one letter. -/
def shortEscape (escape : UInt8) : Option UInt8 :=
  match escape with
  | 34 => some 34
  | 92 => some 92
  | 47 => some 47
  | 98 => some 8
  | 102 => some 12
  | 110 => some 10
  | 114 => some 13
  | 116 => some 9
  | _ => none

/-- One round of the loop of `parse_string`: a byte, an escape or the closing quote. -/
def parseCharacter (out : Bytes) : JsonParse (Bytes ⊕ Bytes) := do
  let c ← satisfy (fun _ ↦ true) "unterminated string"
  if c = 34 then pure (.inr out)
  else if c ≠ 92 then pure (.inl (out ++ [c]))
  else
    let escape ← satisfy (fun _ ↦ true) "unterminated escape"
    match shortEscape escape with
    | some value => pure (.inl (out ++ [value]))
    | none =>
      if escape = 117 then
        let codePoint ← parseUnicodeEscape
        pure (.inl (out ++ appendUtf8 codePoint))
      else reject "invalid escape sequence"

def parseString : JsonParse Bytes := do
  let _ ← satisfy (· == 34) "expected string"
  loop parseCharacter []

/-! ### Numbers -/

def isDigit (c : UInt8) : Bool := 48 ≤ c && c ≤ 57

def isSign (c : UInt8) : Bool := c == 45 || c == 43

/-- The digits behind the point, if there is one. -/
def parseFraction (pointed : Bool) : JsonParse Bytes :=
  if pointed then takeWhile isDigit else pure []

/-- The exponent of a numeral, if there is one. -/
def parseExponent : JsonParse Bytes := do
  let mark ← takeIf fun c ↦ c == 101 || c == 69
  if mark.isEmpty then pure []
  else
    let sign ← takeIf isSign
    let digits ← takeWhile isDigit
    pure (mark ++ sign ++ digits)

/-- The value of a numeral, exactly. -/
def ratNumeral (text : Bytes) : ℚ :=
  let digitsValue (digits : Bytes) : ℕ := digits.foldl (fun n d ↦ 10 * n + (d.toNat - 48)) 0
  let unsigned := text.dropWhile isSign
  let whole := unsigned.takeWhile isDigit
  let tail := unsigned.dropWhile isDigit
  let fraction := if tail.head? = some 46 then (tail.drop 1).takeWhile isDigit else []
  let exponent := (tail.dropWhile fun c ↦ c != 101 && c != 69).drop 1
  let scale : ℤ :=
    (if exponent.head? = some 45 then -1 else 1) * digitsValue (exponent.dropWhile isSign)
  (if text.head? = some 45 then -1 else 1) * digitsValue (whole ++ fraction) *
    10 ^ (scale - fraction.length)

/-- Seventeen significant digits, rounded to nearest, without trailing zeros. -/
def ratFormatG17 (q : ℚ) : Bytes :=
  let rounded (exponent : ℤ) : ℕ := ⌊|q| * 10 ^ (16 - exponent) + 1 / 2⌋.toNat
  let exponent := Int.log 10 |q|
  let exponent := if rounded exponent ≥ 10 ^ 17 then exponent + 1 else exponent
  let digits := (toString (rounded exponent)).toList
  let strip (digits : List Char) : List Char := (digits.reverse.dropWhile (· = '0')).reverse
  let pointed (whole fraction : List Char) : List Char :=
    whole ++ (if strip fraction = [] then [] else '.' :: strip fraction)
  let body :=
    if exponent < -4 ∨ 17 ≤ exponent then
      let scale := (toString exponent.natAbs).toList
      pointed (digits.take 1) (digits.drop 1) ++ ['e', if exponent < 0 then '-' else '+'] ++
        (if scale.length < 2 then '0' :: scale else scale)
    else if exponent < 0 then
      pointed ['0'] (List.replicate (exponent.natAbs - 1) '0' ++ digits)
    else pointed (digits.take (exponent.toNat + 1)) (digits.drop (exponent.toNat + 1))
  ascii (String.ofList ((if q < 0 then ['-'] else []) ++ body))

instance : NumberText ℚ where
  strtod := ratNumeral
  formatG17 := ratFormatG17

variable {D : Type}

def parseNumber [NumberText D] : JsonParse (JsonValue D) := do
  let sign ← takeIf isSign
  let whole ← takeWhile isDigit
  let point ← takeIf (· == 46)
  let fraction ← parseFraction !point.isEmpty
  -- digits on one side of the point are enough
  if whole.isEmpty && fraction.isEmpty then reject "invalid number"
  else
    let exponent ← parseExponent
    pure (.number (NumberText.strtod (sign ++ whole ++ point ++ fraction ++ exponent)))

/-! ### Values -/

/-- What follows an element of a container: a comma, or the closing bracket. -/
def parseClosing (closing : UInt8) (unterminated unexpected : String) : JsonParse Bool := do
  skipWhitespace
  let c ← look unterminated
  if c = 44 then
    advance
    pure false
  else if c = closing then
    advance
    pure true
  else reject unexpected

/-- One round of the loop of `parse_array`: an element and what follows it. -/
def parseElement (element : JsonParse (JsonValue D)) (items : List (JsonValue D)) :
    JsonParse (List (JsonValue D) ⊕ JsonValue D) := do
  let item ← element
  let items := items ++ [item]
  let closed ← parseClosing 93 "unterminated array" "expected ',' or ']' in array"
  pure (if closed then .inr (.array items) else .inl items)

def parseArray (element : JsonParse (JsonValue D)) : JsonParse (JsonValue D) := do
  advance
  skipWhitespace
  let closing ← takeIf (· == 93)
  if closing.isEmpty then loop (parseElement element) []
  else pure (.array [])

/-- The assignment `object_[key] = value`: the member takes its place in the order of the keys, or
the one with the same key is replaced. -/
def insertMember (key : Bytes) (value : JsonValue D) :
    List (Bytes × JsonValue D) → List (Bytes × JsonValue D)
  | [] => [(key, value)]
  | member :: rest =>
    match compare key member.1 with
    | .lt => (key, value) :: member :: rest
    | .eq => (key, value) :: rest
    | .gt => member :: insertMember key value rest

/-- One round of the loop of `parse_object`: a member and what follows it. -/
def parseMember (value : JsonParse (JsonValue D)) (members : List (Bytes × JsonValue D)) :
    JsonParse (List (Bytes × JsonValue D) ⊕ JsonValue D) := do
  skipWhitespace
  let key ← parseString
  skipWhitespace
  let _ ← satisfy (· == 58) "expected ':' in object"
  let item ← value
  let members := insertMember key item members
  let closed ← parseClosing 125 "unterminated object" "expected ',' or '\x7d' in object"
  pure (if closed then .inr (.object members) else .inl members)

def parseObject (value : JsonParse (JsonValue D)) : JsonParse (JsonValue D) := do
  advance
  skipWhitespace
  let closing ← takeIf (· == 125)
  if closing.isEmpty then loop (parseMember value) []
  else pure (.object [])

/-- A literal that stands for a value. -/
def parseLiteral (word : String) (value : JsonValue D) : JsonParse (JsonValue D) := do
  if ← literal (ascii word) then pure value else reject "invalid literal"

/-- A value, with so many levels of nesting left. -/
def parseValue [NumberText D] : ℕ → JsonParse (JsonValue D)
  | 0 => reject "maximum nesting depth exceeded"
  | levels + 1 => do
    skipWhitespace
    let c ← look "unexpected end of input"
    if c = 123 then parseObject (parseValue levels)
    else if c = 91 then parseArray (parseValue levels)
    else if c = 34 then
      let value ← parseString
      pure (.string value)
    else if c = 116 then parseLiteral "true" (.bool true)
    else if c = 102 then parseLiteral "false" (.bool false)
    else if c = 110 then parseLiteral "null" .null
    else parseNumber

/-- A value between whitespace. The nesting may go from level 0 to `kMaxDepth`. -/
def document [NumberText D] : JsonParse (JsonValue D) := do
  skipWhitespace
  let value ← parseValue (kMaxDepth + 1)
  skipWhitespace
  pure value

end JsonParser

namespace JsonValue

variable {D : Type} [Double D] [NumberText D]

/-- Parse a text, or describe what is wrong with it. -/
def parse (text : Bytes) : Except String (JsonValue D) :=
  match JsonParser.document { rest := text } with
  | (none, c) => .error (c.error.getD "")
  | (some value, c) =>
    if c.rest.isEmpty then .ok value else .error "trailing characters after JSON value"

def formatNumber (value : D) : Bytes :=
  if !Double.isFinite value then ascii "null"
  else if Double.eq value (Double.lit (Double.toInt value)) &&
      Double.lt (Double.fabs value) (Double.lit 1000000000000000) then
    ascii (toString (Double.toInt value))
  else NumberText.formatG17 value

mutual

/-- Compact re-serialisation. -/
def dump : JsonValue D → Bytes
  | null => ascii "null"
  | bool value => ascii (if value then "true" else "false")
  | number value => formatNumber value
  | string value => encodeJsonString value
  | array items => 91 :: ([(44 : UInt8)].intercalate (dumpItems items) ++ [93])
  | object members => 123 :: ([(44 : UInt8)].intercalate (dumpMembers members) ++ [125])

def dumpItems : List (JsonValue D) → List Bytes
  | [] => []
  | item :: rest => dump item :: dumpItems rest

def dumpMembers : List (Bytes × JsonValue D) → List Bytes
  | [] => []
  | (key, value) :: rest => (encodeJsonString key ++ 58 :: dump value) :: dumpMembers rest

end

/-- An argument as the host sees it: a string as it is, nothing for `null`, and any other value by
its text. -/
def argumentText : JsonValue D → Bytes
  | string value => value
  | null => []
  | value => value.dump

end JsonValue

/-- Decode a JSON array into strings. -/
def decodeJsonStringArray (D : Type) [Double D] [NumberText D] (json : Bytes) :
    Option (List Bytes) :=
  match (JsonValue.parse json : Except String (JsonValue D)) with
  | .ok (.array items) => some (items.map JsonValue.argumentText)
  | _ => none

end StylyNetSync
