import StylyNetSync.Protocol.MessageTypes

/-!
# Encoding RPC arguments

RPC arguments travel as a JSON array of strings. The encoder escapes the quotation mark, the
backslash and the C0 controls, with the short forms where they exist, and passes every other byte
through.
-/

namespace StylyNetSync

/-- A lowercase hexadecimal digit. -/
def hexDigit (n : UInt8) : UInt8 := if n < 10 then 48 + n else 87 + n

/-- One byte of a JSON string. -/
def encodeJsonByte (c : UInt8) : Bytes :=
  match c with
  | 34 => [92, 34]
  | 92 => [92, 92]
  | 8 => [92, 98]
  | 12 => [92, 102]
  | 10 => [92, 110]
  | 13 => [92, 114]
  | 9 => [92, 116]
  | c =>
    if c < 0x20 then [92, 117, 48, 48, hexDigit (c >>> 4), hexDigit (c &&& 15)]
    else [c]

/-- A JSON string literal, including the surrounding quotes. -/
def encodeJsonString (value : Bytes) : Bytes := 34 :: (value.flatMap encodeJsonByte ++ [34])

/-- A JSON array of strings. -/
def encodeJsonStringArray (values : List Bytes) : Bytes :=
  91 :: ([(44 : UInt8)].intercalate (values.map encodeJsonString) ++ [93])

end StylyNetSync
