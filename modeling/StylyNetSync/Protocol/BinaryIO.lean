import StylyNetSync.Foundation.LatchedScan
import StylyNetSync.Foundation.LittleEndian
import StylyNetSync.Foundation.Utf8
import StylyNetSync.Protocol.MessageTypes

/-!
# The binary writer and the bounds-checked reader

`BinaryWriter` appends to a buffer, so a write is modelled by the bytes it appends. `BinaryReader`
is a latching cursor over a byte range: every accessor is bounds-checked with `size_t` arithmetic,
and after an overrun all accessors return zero or empty without moving.

Each accessor comes with what it reads back of the matching write (`Parses`) and with the fact that
it depends on the bytes it consumed only (`Exact`). Strings are the one lossy field: what comes back
is the truncation the writer applied, on any bytes whatsoever.

An IEEE double that only travels is its bit pattern: `writeF64` and `readF64` move eight bytes
through `memcpy`, and no arithmetic is done on such a field.
-/

open LittleEndian

namespace StylyNetSync

/-! ### Writer -/

def writeU8 (value : UInt8) : Bytes := [value]

def writeU16 (value : UInt16) : Bytes := leBytes 2 value.toNat

def writeI16 (value : Int16) : Bytes := writeU16 value.toUInt16

def writeU32 (value : UInt32) : Bytes := leBytes 4 value.toNat

def kInt24Min : ℤ := -2 ^ 23

def kInt24Max : ℤ := 2 ^ 23 - 1

/-- The clamp `write_i24` applies before it writes. -/
def clampInt24 (value : ℤ) : ℤ :=
  let clamped := if value < kInt24Min then kInt24Min else value
  if clamped > kInt24Max then kInt24Max else clamped

/-- Signed 24-bit little-endian, clamped to the range. The cast to an unsigned word and the mask
with `0xFFFFFF` reduce the clamped value modulo `2 ^ 24`. -/
def writeI24 (value : ℤ) : Bytes :=
  leBytes 3 (clampInt24 value % 2 ^ 24).toNat

/-- IEEE-754 binary64, little-endian, given as its bit pattern. -/
def writeF64 (bits : UInt64) : Bytes := leBytes 8 bits.toNat

/-- Walk back from `cut` to the start of the character that straddles the cut point. -/
def straddleStart (value : Bytes) : ℕ → ℕ
  | 0 => 0
  | cut + 1 =>
    if Utf8.isContinuation (value.getD (cut + 1) 0) then straddleStart value cut else cut + 1

/-- Truncate to at most `maxBytes` bytes without splitting a multi-byte sequence. -/
def truncateUtf8Bytes (value : Bytes) (maxBytes : ℕ) : Bytes :=
  if value.length ≤ maxBytes then value else value.take (straddleStart value maxBytes)

/-- Truncate to at most `maxCodePoints` code points: stop in front of the first byte that starts a
further one. -/
def truncateUtf8CodePoints : Bytes → ℕ → Bytes
  | [], _ => []
  | byte :: rest, n =>
    if Utf8.isContinuation byte then byte :: truncateUtf8CodePoints rest n
    else match n with
      | 0 => []
      | n + 1 => byte :: truncateUtf8CodePoints rest n

/-- UTF-8 bytes with a single-byte length prefix, truncated to 255 bytes. -/
def writeString8 (value : Bytes) : Bytes :=
  let truncated := truncateUtf8Bytes value 255
  [UInt8.ofNat truncated.length] ++ truncated

/-- UTF-8 bytes with a two-byte little-endian length prefix. -/
def writeString16 (value : Bytes) : Bytes :=
  let length :=
    if value.length > 65535 then (truncateUtf8Bytes value 65535).length else value.length
  writeU16 (UInt16.ofNat length) ++ value.take length

/-! ### Reader -/

/-- The modulus of `size_t` arithmetic. -/
def sizeMod : ℕ := 2 ^ 64

/-- The reader of the source: a position in a borrowed byte range and the latched flag. -/
abbrev BinaryReader := Cursor UInt8

/-- A computation on a `BinaryReader` that may return false. -/
abbrev Read := Scan UInt8

/-- Little-endian word of `n` bytes; zero when `require` fails. -/
def readWord (n : ℕ) : Read ℕ := do
  match ← Scan.grab sizeMod n with
  | some bytes => pure (leValue bytes)
  | none => pure 0

def readU8 : Read UInt8 := UInt8.ofNat <$> readWord 1

def readU16 : Read UInt16 := UInt16.ofNat <$> readWord 2

def readI16 : Read Int16 := UInt16.toInt16 <$> readU16

def readU32 : Read UInt32 := UInt32.ofNat <$> readWord 4

/-- Sign extension of a 24-bit word: with bit 23 set, the upper byte is filled with ones. -/
def signExtend24 (value : ℕ) : ℤ :=
  if value / 2 ^ 23 % 2 ≠ 0 then (value : ℤ) - 2 ^ 24 else value

/-- Signed 24-bit little-endian, sign-extended. -/
def readI24 : Read ℤ := signExtend24 <$> readWord 3

def readF64 : Read UInt64 := UInt64.ofNat <$> readWord 8

/-- The bytes of a string whose length was already read; empty when they are not all there. -/
def readChars (length : ℕ) : Read Bytes := do
  match ← Scan.grab sizeMod length with
  | some bytes => pure bytes
  | none => pure []

def readString8 : Read Bytes := do
  let length ← readU8
  readChars length.toNat

def readString16 : Read Bytes := do
  let length ← readU16
  readChars length.toNat

/-! ### Truncation -/

theorem straddleStart_le (value : Bytes) (cut : ℕ) : straddleStart value cut ≤ cut := by
  induction cut with
  | zero => exact Nat.le_refl 0
  | succ cut ih =>
    rw [straddleStart]
    split
    · exact Nat.le_succ_of_le ih
    · exact Nat.le_refl _

theorem truncateUtf8Bytes_of_le {value : Bytes} {n : ℕ} (h : value.length ≤ n) :
    truncateUtf8Bytes value n = value := if_pos h

theorem length_truncateUtf8Bytes_le (value : Bytes) (n : ℕ) :
    (truncateUtf8Bytes value n).length ≤ n := by
  rw [truncateUtf8Bytes]
  split
  · assumption
  · rw [List.length_take]
    exact Nat.le_trans (Nat.min_le_left _ _) (straddleStart_le value n)

/-- Truncation is the identity exactly on strings within the limit. -/
theorem truncateUtf8Bytes_eq_self_iff {value : Bytes} {n : ℕ} :
    truncateUtf8Bytes value n = value ↔ value.length ≤ n := by
  constructor
  · intro h
    rw [← h]
    exact length_truncateUtf8Bytes_le value n
  · exact truncateUtf8Bytes_of_le

theorem truncateUtf8CodePoints_of_le {value : Bytes} {n : ℕ} (h : Utf8.codePoints value ≤ n) :
    truncateUtf8CodePoints value n = value := by
  induction value generalizing n with
  | nil => rfl
  | cons byte rest ih =>
    rw [Utf8.codePoints, List.countP_cons] at h
    by_cases hcont : Utf8.isContinuation byte = true
    · have hrest : Utf8.codePoints rest ≤ n := by simpa [Utf8.codePoints, hcont] using h
      simp [truncateUtf8CodePoints, hcont, ih hrest]
    · cases n with
      | zero => simp [hcont] at h
      | succ n =>
        have hrest : Utf8.codePoints rest ≤ n := by simpa [Utf8.codePoints, hcont] using h
        simp [truncateUtf8CodePoints, hcont, ih hrest]

/-- The prefix of the value that `write_string16` copies is its truncation to 65535 bytes. -/
theorem writeString16_eq (value : Bytes) :
    writeString16 value = writeU16 (UInt16.ofNat (truncateUtf8Bytes value 65535).length) ++
      truncateUtf8Bytes value 65535 := by
  simp only [writeString16]
  split
  · next hlong =>
    have hcut : truncateUtf8Bytes value 65535 = value.take (straddleStart value 65535) :=
      if_neg (by omega)
    have hle : straddleStart value 65535 ≤ value.length :=
      Nat.le_trans (straddleStart_le value 65535) (by omega)
    rw [hcut, List.length_take, Nat.min_eq_left hle]
  · next hshort =>
    rw [truncateUtf8Bytes_of_le (by omega), List.take_length]

/-! ### Lengths -/

@[simp] theorem length_writeU8 (value : UInt8) : (writeU8 value).length = 1 := rfl

@[simp] theorem length_writeU16 (value : UInt16) : (writeU16 value).length = 2 := rfl

@[simp] theorem length_writeI16 (value : Int16) : (writeI16 value).length = 2 := rfl

@[simp] theorem length_writeU32 (value : UInt32) : (writeU32 value).length = 4 := rfl

@[simp] theorem length_writeI24 (value : ℤ) : (writeI24 value).length = 3 := rfl

@[simp] theorem length_writeF64 (bits : UInt64) : (writeF64 bits).length = 8 := rfl

theorem length_writeString8_le (value : Bytes) : (writeString8 value).length ≤ 256 := by
  have := length_truncateUtf8Bytes_le value 255
  simp only [writeString8, List.length_append, List.length_singleton]
  omega

theorem length_writeString16_le (value : Bytes) : (writeString16 value).length ≤ 65537 := by
  have := length_truncateUtf8Bytes_le value 65535
  rw [writeString16_eq, List.length_append, length_writeU16]
  omega

/-- The length of a message is the sum over its fields. -/
theorem length_flatten_cons (field : Bytes) (fields : List Bytes) :
    (field :: fields).flatten.length = field.length + fields.flatten.length := by
  rw [List.flatten_cons, List.length_append]

/-- Records of bounded length, written one after the other. -/
theorem length_flatMap_le {δ : Type} (encode : δ → Bytes) (xs : List δ) {bound : ℕ}
    (h : ∀ x ∈ xs, (encode x).length ≤ bound) : (xs.flatMap encode).length ≤ xs.length * bound := by
  induction xs with
  | nil => simp
  | cons x xs ih =>
    have hx := h x List.mem_cons_self
    have hxs := ih fun y hy ↦ h y (List.mem_cons_of_mem _ hy)
    rw [List.flatMap_cons, List.length_append, List.length_cons, Nat.add_mul, Nat.one_mul]
    omega

/-! ### Reading back what was written -/

theorem readWord_parses {n v : ℕ} (h : v < 256 ^ n) :
    Scan.Parses sizeMod (readWord n) (leBytes n v) v := by
  have hgrab : Scan.Parses sizeMod (Scan.grab sizeMod n) (leBytes n v) (some (leBytes n v)) :=
    Scan.Parses.grab (length_leBytes n v)
  have hpure : Scan.Parses sizeMod (pure (leValue (leBytes n v)) : Read ℕ) []
      (leValue (leBytes n v)) := Scan.Parses.pure _
  have := hgrab.bind (f := fun r ↦ match r with
    | some bytes => pure (leValue bytes)
    | none => pure 0) hpure
  rwa [List.append_nil, leValue_leBytes_of_lt h] at this

theorem readU8_parses (value : UInt8) : Scan.Parses sizeMod readU8 (writeU8 value) value := by
  have h := (readWord_parses (n := 1) (v := value.toNat) value.toNat_lt).map UInt8.ofNat
  simpa [leBytes, writeU8, readU8] using h

theorem readU16_parses (value : UInt16) : Scan.Parses sizeMod readU16 (writeU16 value) value := by
  have h := (readWord_parses (n := 2) (v := value.toNat) value.toNat_lt).map UInt16.ofNat
  rwa [UInt16.ofNat_toNat] at h

theorem readI16_parses (value : Int16) : Scan.Parses sizeMod readI16 (writeI16 value) value :=
  (readU16_parses value.toUInt16).map UInt16.toInt16

theorem readU32_parses (value : UInt32) : Scan.Parses sizeMod readU32 (writeU32 value) value := by
  have h := (readWord_parses (n := 4) (v := value.toNat) value.toNat_lt).map UInt32.ofNat
  rwa [UInt32.ofNat_toNat] at h

theorem readF64_parses (bits : UInt64) : Scan.Parses sizeMod readF64 (writeF64 bits) bits := by
  have h := (readWord_parses (n := 8) (v := bits.toNat) bits.toNat_lt).map UInt64.ofNat
  rwa [UInt64.ofNat_toNat] at h

theorem clampInt24_bounds (value : ℤ) :
    kInt24Min ≤ clampInt24 value ∧ clampInt24 value ≤ kInt24Max := by
  simp only [clampInt24, kInt24Min, kInt24Max]
  split_ifs <;> omega

/-- Sign extension undoes the reduction modulo `2 ^ 24` on the 24-bit range. -/
theorem signExtend24_emod {v : ℤ} (hmin : kInt24Min ≤ v) (hmax : v ≤ kInt24Max) :
    signExtend24 (v % 2 ^ 24).toNat = v := by
  simp only [kInt24Min, kInt24Max] at hmin hmax
  rw [signExtend24]
  split_ifs <;> omega

/-- The word the reader sees is the one the writer clamped. -/
theorem readI24_parses (value : ℤ) :
    Scan.Parses sizeMod readI24 (writeI24 value) (clampInt24 value) := by
  obtain ⟨hmin, hmax⟩ := clampInt24_bounds value
  have hlt : (clampInt24 value % 2 ^ 24).toNat < 256 ^ 3 := by omega
  have h := (readWord_parses hlt).map signExtend24
  rwa [signExtend24_emod hmin hmax] at h

theorem readChars_parses (bytes : Bytes) :
    Scan.Parses sizeMod (readChars bytes.length) bytes bytes := by
  have hgrab : Scan.Parses sizeMod (Scan.grab sizeMod bytes.length) bytes (some bytes) :=
    Scan.Parses.grab rfl
  have hpure : Scan.Parses sizeMod (pure bytes : Read Bytes) [] bytes := Scan.Parses.pure _
  have := hgrab.bind (f := fun r ↦ match r with
    | some bytes => pure bytes
    | none => pure []) hpure
  rwa [List.append_nil] at this

theorem readString8_parses (value : Bytes) :
    Scan.Parses sizeMod readString8 (writeString8 value) (truncateUtf8Bytes value 255) := by
  have hlen := length_truncateUtf8Bytes_le value 255
  have hcast : (UInt8.ofNat (truncateUtf8Bytes value 255).length).toNat =
      (truncateUtf8Bytes value 255).length := by
    rw [UInt8.toNat_ofNat', Nat.mod_eq_of_lt (by omega)]
  refine (readU8_parses _).bind ?_
  rw [hcast]
  exact readChars_parses _

theorem readString16_parses (value : Bytes) :
    Scan.Parses sizeMod readString16 (writeString16 value) (truncateUtf8Bytes value 65535) := by
  have hlen := length_truncateUtf8Bytes_le value 65535
  have hcast : (UInt16.ofNat (truncateUtf8Bytes value 65535).length).toNat =
      (truncateUtf8Bytes value 65535).length := by
    rw [UInt16.toNat_ofNat', Nat.mod_eq_of_lt (by omega)]
  rw [writeString16_eq]
  refine (readU16_parses _).bind ?_
  rw [hcast]
  exact readChars_parses _

/-! ### Dependence on the consumed bytes -/

theorem readWord_exact {n : ℕ} (h : n < sizeMod) : Scan.Exact sizeMod (readWord n) :=
  (Scan.Exact.grab h).bind fun r ↦ by
    cases r with
    | none => exact Scan.Exact.pure 0
    | some bytes => exact Scan.Exact.pure (leValue bytes)

theorem readU8_exact : Scan.Exact sizeMod readU8 := (readWord_exact (by decide)).map _

theorem readU16_exact : Scan.Exact sizeMod readU16 := (readWord_exact (by decide)).map _

theorem readI16_exact : Scan.Exact sizeMod readI16 := readU16_exact.map _

theorem readU32_exact : Scan.Exact sizeMod readU32 := (readWord_exact (by decide)).map _

theorem readI24_exact : Scan.Exact sizeMod readI24 := (readWord_exact (by decide)).map _

theorem readF64_exact : Scan.Exact sizeMod readF64 := (readWord_exact (by decide)).map _

theorem readChars_exact {length : ℕ} (h : length < sizeMod) :
    Scan.Exact sizeMod (readChars length) :=
  (Scan.Exact.grab h).bind fun r ↦ by
    cases r with
    | none => exact Scan.Exact.pure []
    | some bytes => exact Scan.Exact.pure bytes

theorem readString8_exact : Scan.Exact sizeMod readString8 :=
  readU8_exact.bind fun length ↦
    readChars_exact (Nat.lt_of_lt_of_le length.toNat_lt (by decide))

theorem readString16_exact : Scan.Exact sizeMod readString16 :=
  readU16_exact.bind fun length ↦
    readChars_exact (Nat.lt_of_lt_of_le length.toNat_lt (by decide))

end StylyNetSync
