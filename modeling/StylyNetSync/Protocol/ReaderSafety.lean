import StylyNetSync.Foundation.RecordedAccess
import StylyNetSync.Protocol.BinaryIO

/-!
# The reader under any use

The accessors of `BinaryReader` with a record of the bytes they read. All network input goes through
them, in an order that the input itself decides. Whatever the order and the counts, no byte beyond
the buffer is read, and a failure is final (`reader_safe`).
-/

namespace StylyNetSync

namespace BinaryReader

open Access LittleEndian

/-- The accessors by what a caller may ask for; counts are of type `size_t`. -/
inductive Call
  | u8
  | u16
  | i16
  | u32
  | i32
  | i24
  | f64
  | string8
  | string16
  | bytes (count : UInt64)
  | skip (count : UInt64)

/-- What a call returns: a number, the bits of a floating-point one, bytes, or nothing. -/
inductive Result
  | number (value : ℤ)
  | bits (value : UInt64)
  | bytes (value : Bytes)
  | done
  deriving DecidableEq

def readU8 : Access UInt8 UInt8 := guarded sizeMod 1 (fun bytes ↦ UInt8.ofNat (leValue bytes)) 0

def readU16 : Access UInt8 UInt16 := guarded sizeMod 2 (fun bytes ↦ UInt16.ofNat (leValue bytes)) 0

def readI16 : Access UInt8 Int16 := UInt16.toInt16 <$> readU16

def readU32 : Access UInt8 UInt32 := guarded sizeMod 4 (fun bytes ↦ UInt32.ofNat (leValue bytes)) 0

def readI32 : Access UInt8 Int32 := UInt32.toInt32 <$> readU32

def readI24 : Access UInt8 ℤ := guarded sizeMod 3 (fun bytes ↦ signExtend24 (leValue bytes)) 0

def readF64 : Access UInt8 UInt64 := guarded sizeMod 8 (fun bytes ↦ UInt64.ofNat (leValue bytes)) 0

/-- The bytes of a given length, empty when they are not all there. -/
def readBytes (count : ℕ) : Access UInt8 Bytes := guarded sizeMod count id []

def readString8 : Access UInt8 Bytes := do
  let length ← readU8
  readBytes length.toNat

def readString16 : Access UInt8 Bytes := do
  let length ← readU16
  readBytes length.toNat

/-- A call, performed. -/
def Call.perform : Call → Access UInt8 Result
  | u8 => (.number ·.toNat) <$> readU8
  | u16 => (.number ·.toNat) <$> readU16
  | i16 => (.number ·.toInt) <$> readI16
  | u32 => (.number ·.toNat) <$> readU32
  | i32 => (.number ·.toInt) <$> readI32
  | i24 => .number <$> readI24
  | f64 => .bits <$> readF64
  | string8 => .bytes <$> readString8
  | string16 => .bytes <$> readString16
  | bytes count => .bytes <$> readBytes count.toNat
  | skip count => (fun _ ↦ .done) <$> Access.skip sizeMod count.toNat

/-- What it returns when the reader has failed: zero, or nothing. -/
def Call.zero : Call → Result
  | u8 | u16 | i16 | u32 | i32 | i24 => .number 0
  | f64 => .bits 0
  | string8 | string16 | bytes _ => .bytes []
  | skip _ => .done

/-- A reader in front of a buffer. -/
def start (buffer : Bytes) : Recorded UInt8 := ⟨{ data := buffer }, []⟩

/-! ### Each call -/

theorem safe_readU8 : Safe sizeMod readU8 0 := Safe.guarded (by decide) _ _

theorem safe_readU16 : Safe sizeMod readU16 0 := Safe.guarded (by decide) _ _

theorem safe_readU32 : Safe sizeMod readU32 0 := Safe.guarded (by decide) _ _

theorem safe_readBytes {count : ℕ} (h : count < sizeMod) : Safe sizeMod (readBytes count) [] :=
  Safe.guarded h _ _

theorem safe_readString8 : Safe sizeMod readString8 [] :=
  safe_readU8.bind (z := fun _ ↦ []) fun length ↦
    safe_readBytes (Nat.lt_trans length.toNat_lt (by decide))

theorem safe_readString16 : Safe sizeMod readString16 [] :=
  safe_readU16.bind (z := fun _ ↦ []) fun length ↦
    safe_readBytes (Nat.lt_trans length.toNat_lt (by decide))

/-- **Every call is safe.** -/
theorem Call.safe (call : Call) : Safe sizeMod call.perform call.zero := by
  cases call with
  | u8 => exact safe_readU8.map _
  | u16 => exact safe_readU16.map _
  | i16 => exact (safe_readU16.map UInt16.toInt16).map fun v : Int16 ↦ Result.number v.toInt
  | u32 => exact safe_readU32.map _
  | i32 => exact (safe_readU32.map UInt32.toInt32).map fun v : Int32 ↦ Result.number v.toInt
  | i24 => exact (Safe.guarded (by decide) _ _ : Safe sizeMod readI24 0).map _
  | f64 => exact (Safe.guarded (by decide) _ _ : Safe sizeMod readF64 0).map _
  | string8 => exact safe_readString8.map _
  | string16 => exact safe_readString16.map _
  | bytes count => exact (safe_readBytes count.toNat_lt).map _
  | skip count => exact (Safe.skip count.toNat_lt).map fun _ ↦ Result.done

/-- A word is read with an accessor. -/
theorem agrees_word {β : Type} {n : ℕ} (hn : n < sizeMod) (f : ℕ → β) :
    Agrees sizeMod (guarded sizeMod n (fun bytes ↦ f (leValue bytes)) (f 0))
      (f <$> readWord n) := by
  have hword : f <$> readWord n =
      grabValue sizeMod n (fun bytes ↦ f (leValue bytes)) (f 0) := by
    funext c
    show Scan.bind (Scan.bind (Scan.grab sizeMod n) _) _ c = Scan.bind (Scan.grab sizeMod n) _ c
    rw [Scan.bind, Scan.bind, Scan.bind]
    rcases Scan.grab sizeMod n c with ⟨- | - | items, c'⟩
    · rfl
    · rfl
    · rfl
  rw [hword]
  exact Agrees.guarded hn _ _

/-- So are the bytes of a string. -/
theorem agrees_readBytes {n : ℕ} (hn : n < sizeMod) :
    Agrees sizeMod (readBytes n) (readChars n) := by
  have hchars : readChars n = grabValue sizeMod n id [] := by
    funext c
    show Scan.bind (Scan.grab sizeMod n) _ c = Scan.bind (Scan.grab sizeMod n) _ c
    rw [Scan.bind, Scan.bind]
    rcases Scan.grab sizeMod n c with ⟨- | - | items, c'⟩
    · rfl
    · rfl
    · rfl
  rw [hchars]
  exact Agrees.guarded hn id []

/-- **The readers of the messages are these**, without the record. -/
theorem agrees_readers :
    Agrees sizeMod readU8 StylyNetSync.readU8 ∧ Agrees sizeMod readU16 StylyNetSync.readU16 ∧
      Agrees sizeMod readI16 StylyNetSync.readI16 ∧ Agrees sizeMod readU32 StylyNetSync.readU32 ∧
      Agrees sizeMod readI24 StylyNetSync.readI24 ∧ Agrees sizeMod readF64 StylyNetSync.readF64 ∧
      Agrees sizeMod readString8 StylyNetSync.readString8 ∧
      Agrees sizeMod readString16 StylyNetSync.readString16 := by
  have hu8 : Agrees sizeMod readU8 StylyNetSync.readU8 := agrees_word (by decide) UInt8.ofNat
  have hu16 : Agrees sizeMod readU16 StylyNetSync.readU16 := agrees_word (by decide) UInt16.ofNat
  refine ⟨hu8, hu16, hu16.map safe_readU16 _, agrees_word (by decide) UInt32.ofNat,
    agrees_word (by decide) signExtend24, agrees_word (by decide) UInt64.ofNat, ?_, ?_⟩
  · exact Agrees.bind safe_readU8 hu8 fun length ↦
      agrees_readBytes (Nat.lt_trans length.toNat_lt (by decide))
  · exact Agrees.bind safe_readU16 hu16 fun length ↦
      agrees_readBytes (Nat.lt_trans length.toNat_lt (by decide))

/-! ### Every use -/

/-- **The reader is safe under any use.** After any sequence of calls the offset is in the buffer
and so is every byte that was accessed; and once the reader has failed, all further calls return
zero or nothing and leave it as it is. -/
theorem reader_safe (buffer : Bytes) (h : buffer.length < sizeMod) (calls : List Call) :
    let s := ((calls.mapM Call.perform : Access UInt8 (List Result)) (start buffer)).2
    s.cursor.data = buffer ∧ s.cursor.offset ≤ buffer.length ∧
      (∀ i ∈ s.accessed, i < buffer.length) ∧
      (s.cursor.ok = false → ∀ more : List Call,
        (more.mapM Call.perform : Access UInt8 (List Result)) s = (more.map Call.zero, s)) := by
  intro s
  have hstart : (start buffer).InBounds sizeMod := Recorded.InBounds.start h
  have hsafe (calls : List Call) := Safe.mapM Call.safe calls
  have hbounds : s.InBounds sizeMod := (hsafe calls).keeps _ hstart
  have hdata : s.cursor.data = buffer := (hsafe calls).data_eq _ hstart
  refine ⟨hdata, ?_, ?_, fun hfailed more ↦ (hsafe more).failed s hfailed⟩
  · rw [← hdata]
    exact hbounds.offset_le
  · rw [← hdata]
    exact hbounds.accessed_lt

/-- A skip by `2 ^ 64 - 1` from the second byte, for which the end of the range wraps around to the
first; and a string whose length runs past the end. -/
theorem reader_safe_lying :
    let skipped := (([.u8, .skip (-1)].mapM Call.perform : Access UInt8 (List Result))
      (start [200, 97, 98])).2
    let read := (([.string8].mapM Call.perform : Access UInt8 (List Result))
      (start [200, 97, 98])).2
    skipped.cursor.ok = false ∧ skipped.cursor.offset = 1 ∧
      ([Call.u8, .bytes 1].mapM Call.perform : Access UInt8 (List Result)) skipped =
        ([.number 0, .bytes []], skipped) ∧
      read.cursor.ok = false ∧ read.accessed = [0] ∧
      ([Call.u8].mapM Call.perform : Access UInt8 (List Result)) read = ([.number 0], read) := by
  intro skipped read
  have hskipped : skipped.cursor.ok = false := by decide
  have hread : read.cursor.ok = false := by decide
  have h := reader_safe [200, 97, 98] (by decide)
  exact ⟨hskipped, by decide, (h [.u8, .skip (-1)]).2.2.2 hskipped _, hread, by decide,
    (h [.string8]).2.2.2 hread _⟩

end BinaryReader

end StylyNetSync
