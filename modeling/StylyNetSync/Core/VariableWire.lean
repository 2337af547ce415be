import StylyNetSync.Core.NetworkVariableManager
import StylyNetSync.Protocol.RoundTrip

/-!
# What the wire carries of a variable

The manager accepts names by their number of characters, the wire format limits them by their number
of bytes. A value always fits: 1024 characters take at most 4096 bytes. A name need not: 64
characters of four bytes each take 256, one more than the length byte can say, and the last
character is cut off.

`CarriedUnchanged` collects what a client variable needs in order to arrive as it was sent, and
`decodedWrite` is the write a server sees in a control payload.
-/

namespace StylyNetSync

open NetworkVariableManager

theorem codePoints_of_validateName {name : Bytes} (h : validateName name = true) :
    Utf8.codePoints name ≤ kMaxVariableNameChars := by
  rw [validateName, Bool.not_eq_true', Bool.or_eq_false_iff] at h
  exact Nat.le_of_not_lt (of_decide_eq_false h.2)

theorem codePoints_of_validateValue {value : Bytes} (h : validateValue value = true) :
    Utf8.codePoints value ≤ kMaxVariableValueChars :=
  of_decide_eq_true h

/-- An accepted name arrives unchanged exactly if its bytes fit the length byte. -/
theorem wireName_eq_self_iff {name : Bytes} (h : validateName name = true) :
    wireName name = name ↔ name.length ≤ 255 := by
  have hpoints : truncateUtf8CodePoints name 64 = name :=
    truncateUtf8CodePoints_of_le (codePoints_of_validateName h)
  rw [wireName, hpoints]
  exact wireString8_eq_self_iff

/-- An accepted value of well-formed text always arrives unchanged. -/
theorem wireValue_eq_self {value : Bytes} (hwf : Utf8.WellFormed value)
    (h : validateValue value = true) : wireValue value = value := by
  have hcount := codePoints_of_validateValue h
  have hpoints : truncateUtf8CodePoints value 1024 = value := truncateUtf8CodePoints_of_le hcount
  have hlength := hwf.length_le
  rw [wireValue, hpoints]
  refine truncateUtf8Bytes_of_le ?_
  simp only [kMaxVariableValueChars] at hcount
  omega

/-- The name and value a set message decodes to. -/
def decodedGlobalVarSet (payload : Bytes) : Option (Bytes × Bytes) :=
  (deserializeGlobalVarSet.run payload).1.map fun m ↦ (m.variableName, m.variableValue)

/-- The name and value a client set message decodes to. -/
def decodedClientVarSet (payload : Bytes) : Option (Bytes × Bytes) :=
  (deserializeClientVarSet.run payload).1.map fun m ↦ (m.variableName, m.variableValue)

theorem decodedGlobalVarSet_serialize (m : GlobalVarSetMessage) :
    decodedGlobalVarSet (serializeGlobalVarSet m) =
      some (wireName m.variableName, wireValue m.variableValue) := by
  have h : deserializeGlobalVarSet.run (serializeGlobalVarSet m) = _ := globalVarSet_roundTrips m
  rw [decodedGlobalVarSet, h]
  rfl

theorem decodedClientVarSet_serialize (m : ClientVarSetMessage) :
    decodedClientVarSet (serializeClientVarSet m) =
      some (wireName m.variableName, wireValue m.variableValue) := by
  have h : deserializeClientVarSet.run (serializeClientVarSet m) = _ := clientVarSet_roundTrips m
  rw [decodedClientVarSet, h]
  rfl

theorem decoded_eq_iff {name value : Bytes} (hvalue : Utf8.WellFormed value)
    (hacceptsName : validateName name = true) (hacceptsValue : validateValue value = true) :
    some (wireName name, wireValue value) = some (name, value) ↔ name.length ≤ 255 := by
  rw [wireValue_eq_self hvalue hacceptsValue, Option.some.injEq, Prod.mk.injEq,
    wireName_eq_self_iff hacceptsName]
  exact and_iff_left rfl

/-- **Which accepted writes arrive unchanged.** Of an accepted name and an accepted value of
well-formed text, both set messages give back exactly the name and the value if and only if the name
takes at most 255 bytes. Nothing depends on the device id or the client numbers. -/
theorem accepted_write_carried_iff {name value : Bytes} (deviceId : Bytes)
    (sender target : UInt16) (hvalue : Utf8.WellFormed value)
    (hacceptsName : validateName name = true) (hacceptsValue : validateValue value = true) :
    (decodedGlobalVarSet (serializeGlobalVarSet ⟨sender, deviceId, name, value⟩) =
        some (name, value) ∧
      decodedClientVarSet (serializeClientVarSet ⟨sender, deviceId, target, name, value⟩) =
        some (name, value)) ↔
    name.length ≤ 255 := by
  rw [decodedGlobalVarSet_serialize, decodedClientVarSet_serialize, and_self]
  exact decoded_eq_iff hvalue hacceptsName hacceptsValue

theorem wellFormed_of_utf8Encode (cs : List Char) :
    Utf8.WellFormed (cs.flatMap String.utf8EncodeChar) := ⟨cs, rfl⟩

/-- The name `hp` with value `9` arrives unchanged. -/
theorem accepted_write_carried_hp :
    decodedGlobalVarSet (serializeGlobalVarSet ⟨1, [100], [104, 112], [57]⟩) =
        some ([104, 112], [57]) ∧
      decodedClientVarSet (serializeClientVarSet ⟨1, [100], 2, [104, 112], [57]⟩) =
        some ([104, 112], [57]) :=
  (accepted_write_carried_iff [100] 1 2 ⟨['9'], by decide⟩ (by decide) (by decide)).mpr (by decide)

/-- Sixty-four characters of four bytes each. -/
def emojiName : Bytes := (List.replicate 64 '😀').flatMap String.utf8EncodeChar

/-- The name is accepted, and is not what either message delivers. -/
theorem emojiName_not_carried :
    Utf8.WellFormed emojiName ∧ Utf8.WellFormed [57] ∧ validateName emojiName = true ∧
      validateValue [57] = true ∧
      decodedGlobalVarSet (serializeGlobalVarSet ⟨1, [100], emojiName, [57]⟩) ≠
        some (emojiName, [57]) ∧
      decodedClientVarSet (serializeClientVarSet ⟨1, [100], 2, emojiName, [57]⟩) ≠
        some (emojiName, [57]) := by
  have hvalue : Utf8.WellFormed [57] := ⟨['9'], by decide⟩
  have hname : validateName emojiName = true := by decide +kernel
  have hlong : ¬ emojiName.length ≤ 255 := by decide +kernel
  have hacceptsValue : validateValue [57] = true := by decide
  have hiff := decoded_eq_iff hvalue hname hacceptsValue
  refine ⟨wellFormed_of_utf8Encode _, hvalue, hname, hacceptsValue, ?_, ?_⟩
  · rw [decodedGlobalVarSet_serialize]
    exact fun h ↦ hlong (hiff.mp h)
  · rw [decodedClientVarSet_serialize]
    exact fun h ↦ hlong (hiff.mp h)

/-! ### Variables that are carried unchanged -/

/-- A client variable whose client number, name and value all fit their wire fields. -/
structure CarriedUnchanged (key : ClientKey) (value : Bytes) : Prop where
  clientNo_nonneg : 0 ≤ key.clientNo
  clientNo_lt : key.clientNo < 65536
  name_fits : wireName key.name = key.name
  value_fits : wireValue value = value

theorem toNat_clientNoOnWire {clientNo : ℤ} (hnonneg : 0 ≤ clientNo) (hlt : clientNo < 65536) :
    ((clientNoOnWire clientNo).toNat : ℤ) = clientNo := by
  rw [clientNoOnWire, if_neg (by omega), UInt16.toNat_ofNat']
  omega

/-- The write a control payload asks the server for: client number, name and value. -/
def decodedWrite (payload : Bytes) : Option (UInt16 × Bytes × Bytes) :=
  (deserializeClientVarSet.run payload).1.map fun m ↦
    (m.targetClientNo, m.variableName, m.variableValue)

theorem decodedWrite_serializeClientVarSet (m : ClientVarSetMessage) :
    decodedWrite (serializeClientVarSet m) =
      some (m.targetClientNo, wireName m.variableName, wireValue m.variableValue) := by
  have h : deserializeClientVarSet.run (serializeClientVarSet m) = _ := clientVarSet_roundTrips m
  rw [decodedWrite, h]
  rfl

/-- A deserialiser rejects a payload of another type at its first byte. -/
theorem rejects_other_type {α : Type} {type expected : UInt8} (rest : Bytes) (hasVersion : Bool)
    (f : Unit → Read α) (h : type ≠ expected) :
    ((beginMessage expected hasVersion >>= f).run (type :: rest)).1 = none := by
  have hread : readU8 ⟨type :: rest, 0, true⟩ = (some type, ⟨type :: rest, 1, true⟩) :=
    readU8_parses type [] rest (show 0 + 1 < sizeMod by decide)
  have hbegin : beginMessage expected hasVersion ⟨type :: rest, 0, true⟩ =
      (none, ⟨type :: rest, 1, true⟩) := by
    rw [beginMessage, Scan.bind_apply_some hread, if_pos h]
    rfl
  rw [Scan.run, Scan.bind_apply_none hbegin]

/-- A payload of another type is no write of a client variable. -/
theorem decodedWrite_eq_none {type : UInt8} (rest : Bytes)
    (h : type ≠ MessageType.clientVarSet.code) : decodedWrite (type :: rest) = none := by
  have hrejected : (deserializeClientVarSet.run (type :: rest)).1 = none :=
    rejects_other_type rest false _ h
  rw [decodedWrite, hrejected]
  rfl

end StylyNetSync
