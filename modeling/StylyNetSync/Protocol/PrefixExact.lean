import StylyNetSync.Protocol.Deserialize

/-!
# Deserialisers depend on the bytes they consume

Every deserialiser is built from bounded reads, checks and branches on bytes already read, and each
of these determines its outcome from the bytes it consumed (`Scan.Exact`). A latched reader feeds
zeros into what follows, but it cannot be unlatched, and every deserialiser consults the flag after
its last read (`Scan.Guarded`). Together the two make acceptance a property of the consumed initial
segment: `Scan.PrefixExact`.
-/

open Scan

namespace StylyNetSync

variable {D : Type}

theorem readerOk_exact : Exact sizeMod readerOk where
  latched _ h := h
  data_eq _ := rfl
  advance hc h _ := by
    rw [readerOk, Prod.mk.injEq] at h
    rw [← h.2]
    exact ⟨Nat.le_refl _, hc⟩
  extend hc h _ d _ _ := by
    rw [readerOk, Prod.mk.injEq] at h ⊢
    exact ⟨h.1, by rw [← h.2]⟩
  cut hc h _ d _ hle hlt := by
    rw [readerOk, Prod.mk.injEq] at h
    rw [← h.2] at hlt
    omega

theorem beginMessage_exact (expectedType : UInt8) (hasVersion : Bool) :
    Exact sizeMod (beginMessage expectedType hasVersion) :=
  readU8_exact.bind fun _ ↦ Exact.ite (fun _ ↦ Exact.fail) fun _ ↦
    Exact.ite
      (fun _ ↦ readU8_exact.bind fun _ ↦ Exact.ite (fun _ ↦ Exact.fail) fun _ ↦ Exact.check)
      fun _ ↦ Exact.check

/-! ### Pose body -/

theorem readRelative_exact [Double D] (headPos : Vec3 D) (headRot : Quat D) :
    Exact sizeMod (readRelative headPos headRot) :=
  readI16_exact.bind fun _ ↦ readI16_exact.bind fun _ ↦ readI16_exact.bind fun _ ↦
    readU32_exact.bind fun _ ↦ readerOk_exact.bind fun _ ↦ Exact.pure _

theorem readLocomotion_exact (flags encodingFlags : UInt8) :
    Exact sizeMod (readLocomotion flags encodingFlags) :=
  Exact.ite
    (fun _ ↦ Exact.ite (fun _ ↦ Exact.fail) fun _ ↦
      readI16_exact.bind fun _ ↦ readI16_exact.bind fun _ ↦ readI16_exact.bind fun _ ↦
        readI16_exact.bind fun _ ↦ Exact.pure _)
    fun _ ↦ Exact.pure _

theorem readHead_exact [Double D] (flags : UInt8) :
    Exact sizeMod (readHead flags : Read (PoseTransform D)) :=
  Exact.ite
    (fun _ ↦ readI24_exact.bind fun _ ↦ readI24_exact.bind fun _ ↦ readI24_exact.bind fun _ ↦
      readU32_exact.bind fun _ ↦ Exact.check.bind fun _ ↦ Exact.pure _)
    fun _ ↦ Exact.pure _

theorem readHand_exact [Double D] (valid : Bool) (head : PoseTransform D) :
    Exact sizeMod (readHand valid head) :=
  Exact.ite (fun _ ↦ readRelative_exact head.position head.rotation) fun _ ↦ Exact.pure _

theorem readVirtual_exact [Double D] (head : PoseTransform D) :
    Exact sizeMod (readVirtual head) :=
  (readRelative_exact head.position head.rotation).bind fun _ ↦
    Exact.check.bind fun _ ↦ Exact.pure _

theorem readVirtuals_exact [Double D] (flags : UInt8) (head : PoseTransform D) :
    Exact sizeMod (readVirtuals flags head) :=
  readU8_exact.bind fun _ ↦ Exact.check.bind fun _ ↦
    ((readVirtual_exact head).repeatN _).bind fun _ ↦ Exact.pure _

theorem readPoseBody_exact [DoubleTrig D] :
    Exact sizeMod (readPoseBody : Read (ClientPoseBody D)) :=
  readU16_exact.bind fun _ ↦ readU8_exact.bind fun flags ↦ readU8_exact.bind fun encodingFlags ↦
    Exact.check.bind fun _ ↦ (readLocomotion_exact flags encodingFlags).bind fun _ ↦
      (readHead_exact flags).bind fun head ↦ (readHand_exact _ head).bind fun _ ↦
        (readHand_exact _ head).bind fun _ ↦ (readVirtuals_exact flags head).bind fun _ ↦
          Exact.check.bind fun _ ↦ Exact.pure _

theorem readPoseBody_guarded [DoubleTrig D] :
    Guarded (readPoseBody : Read (ClientPoseBody D)) :=
  Guarded.bind fun _ ↦ Guarded.bind fun _ ↦ Guarded.bind fun _ ↦ Guarded.bind fun _ ↦
    Guarded.bind fun _ ↦ Guarded.bind fun _ ↦ Guarded.bind fun _ ↦ Guarded.bind fun _ ↦
      Guarded.bind fun _ ↦ Guarded.check_pure _

/-! ### Records of counted lists -/

theorem readRoomPoseClient_exact [DoubleTrig D] :
    Exact sizeMod (readRoomPoseClient : Read (RoomPoseClient D)) :=
  readU16_exact.bind fun _ ↦ readF64_exact.bind fun _ ↦ Exact.check.bind fun _ ↦
    readPoseBody_exact.bind fun _ ↦ Exact.pure _

theorem readDeviceIdMappingEntry_exact : Exact sizeMod readDeviceIdMappingEntry :=
  readU16_exact.bind fun _ ↦ readU8_exact.bind fun _ ↦ readString8_exact.bind fun _ ↦
    Exact.check.bind fun _ ↦ Exact.pure _

theorem readVariableEntry_exact : Exact sizeMod readVariableEntry :=
  readString8_exact.bind fun _ ↦ readString16_exact.bind fun _ ↦ readU16_exact.bind fun _ ↦
    Exact.check.bind fun _ ↦ Exact.pure _

theorem readClientBlock_exact : Exact sizeMod readClientBlock :=
  readU16_exact.bind fun _ ↦ readU16_exact.bind fun _ ↦ Exact.check.bind fun _ ↦
    (readVariableEntry_exact.repeatN _).bind fun _ ↦ Exact.pure _

theorem readRoomObject_exact [Double D] :
    Exact sizeMod (readRoomObject : Read (RoomObjectState D)) :=
  readU32_exact.bind fun _ ↦ readU16_exact.bind fun _ ↦ readU16_exact.bind fun _ ↦
    readF64_exact.bind fun _ ↦ readI24_exact.bind fun _ ↦ readI24_exact.bind fun _ ↦
      readI24_exact.bind fun _ ↦ readU32_exact.bind fun _ ↦ Exact.check.bind fun _ ↦ Exact.pure _

/-! ### Messages -/

theorem deserializeClientHello_prefixExact : PrefixExact deserializeClientHello :=
  Exact.prefixExact (by decide : 0 < sizeMod)
    ((beginMessage_exact _ _).bind fun _ ↦ readU8_exact.bind fun _ ↦
      readString8_exact.bind fun _ ↦ Exact.check.bind fun _ ↦ Exact.pure _)
    (Guarded.bind fun _ ↦ Guarded.bind fun _ ↦ Guarded.bind fun _ ↦ Guarded.check_pure _)

theorem deserializeClientPose_prefixExact [DoubleTrig D] :
    PrefixExact (deserializeClientPose : Read (ClientPoseMessage D)) :=
  Exact.prefixExact (by decide : 0 < sizeMod)
    ((beginMessage_exact _ _).bind fun _ ↦ readString8_exact.bind fun _ ↦
      Exact.check.bind fun _ ↦ readPoseBody_exact.bind fun _ ↦ Exact.pure _)
    (Guarded.bind fun _ ↦ Guarded.bind fun _ ↦ Guarded.bind fun _ ↦ readPoseBody_guarded.map _)

theorem deserializeRoomPose_prefixExact [DoubleTrig D] :
    PrefixExact (deserializeRoomPose : Read (RoomPoseMessage D)) :=
  Exact.prefixExact (by decide : 0 < sizeMod)
    ((beginMessage_exact _ _).bind fun _ ↦ readString8_exact.bind fun _ ↦
      readF64_exact.bind fun _ ↦ readU16_exact.bind fun _ ↦ Exact.check.bind fun _ ↦
        (readRoomPoseClient_exact.repeatN _).bind fun _ ↦ Exact.check.bind fun _ ↦ Exact.pure _)
    (Guarded.bind fun _ ↦ Guarded.bind fun _ ↦ Guarded.bind fun _ ↦ Guarded.bind fun _ ↦
      Guarded.bind fun _ ↦ Guarded.bind fun _ ↦ Guarded.check_pure _)

theorem deserializeRpc_prefixExact : PrefixExact deserializeRpc :=
  Exact.prefixExact (by decide : 0 < sizeMod)
    ((beginMessage_exact _ _).bind fun _ ↦ readU16_exact.bind fun _ ↦
      readString8_exact.bind fun _ ↦ readU8_exact.bind fun _ ↦ Exact.check.bind fun _ ↦
        (readU16_exact.repeatN _).bind fun _ ↦ readString8_exact.bind fun _ ↦
          readString16_exact.bind fun _ ↦ Exact.check.bind fun _ ↦ Exact.pure _)
    (Guarded.bind fun _ ↦ Guarded.bind fun _ ↦ Guarded.bind fun _ ↦ Guarded.bind fun _ ↦
      Guarded.bind fun _ ↦ Guarded.bind fun _ ↦ Guarded.bind fun _ ↦ Guarded.bind fun _ ↦
        Guarded.check_pure _)

theorem deserializeDeviceIdMapping_prefixExact : PrefixExact deserializeDeviceIdMapping :=
  Exact.prefixExact (by decide : 0 < sizeMod)
    ((beginMessage_exact _ _).bind fun _ ↦ readU8_exact.bind fun _ ↦ readU8_exact.bind fun _ ↦
      readU8_exact.bind fun _ ↦ readU16_exact.bind fun _ ↦ Exact.check.bind fun _ ↦
        (readDeviceIdMappingEntry_exact.repeatN _).bind fun _ ↦
          Exact.check.bind fun _ ↦ Exact.pure _)
    (Guarded.bind fun _ ↦ Guarded.bind fun _ ↦ Guarded.bind fun _ ↦ Guarded.bind fun _ ↦
      Guarded.bind fun _ ↦ Guarded.bind fun _ ↦ Guarded.bind fun _ ↦ Guarded.check_pure _)

theorem deserializeGlobalVarSet_prefixExact : PrefixExact deserializeGlobalVarSet :=
  Exact.prefixExact (by decide : 0 < sizeMod)
    ((beginMessage_exact _ _).bind fun _ ↦ readU16_exact.bind fun _ ↦
      readString8_exact.bind fun _ ↦ readString8_exact.bind fun _ ↦
        readString16_exact.bind fun _ ↦ Exact.check.bind fun _ ↦ Exact.pure _)
    (Guarded.bind fun _ ↦ Guarded.bind fun _ ↦ Guarded.bind fun _ ↦ Guarded.bind fun _ ↦
      Guarded.bind fun _ ↦ Guarded.check_pure _)

theorem deserializeGlobalVarSync_prefixExact : PrefixExact deserializeGlobalVarSync :=
  Exact.prefixExact (by decide : 0 < sizeMod)
    ((beginMessage_exact _ _).bind fun _ ↦ readU16_exact.bind fun _ ↦ Exact.check.bind fun _ ↦
      (readVariableEntry_exact.repeatN _).bind fun _ ↦ Exact.check.bind fun _ ↦ Exact.pure _)
    (Guarded.bind fun _ ↦ Guarded.bind fun _ ↦ Guarded.bind fun _ ↦ Guarded.bind fun _ ↦
      Guarded.check_pure _)

theorem deserializeClientVarSet_prefixExact : PrefixExact deserializeClientVarSet :=
  Exact.prefixExact (by decide : 0 < sizeMod)
    ((beginMessage_exact _ _).bind fun _ ↦ readU16_exact.bind fun _ ↦
      readString8_exact.bind fun _ ↦ readU16_exact.bind fun _ ↦ readString8_exact.bind fun _ ↦
        readString16_exact.bind fun _ ↦ Exact.check.bind fun _ ↦ Exact.pure _)
    (Guarded.bind fun _ ↦ Guarded.bind fun _ ↦ Guarded.bind fun _ ↦ Guarded.bind fun _ ↦
      Guarded.bind fun _ ↦ Guarded.bind fun _ ↦ Guarded.check_pure _)

theorem deserializeClientVarSync_prefixExact : PrefixExact deserializeClientVarSync :=
  Exact.prefixExact (by decide : 0 < sizeMod)
    ((beginMessage_exact _ _).bind fun _ ↦ readU16_exact.bind fun _ ↦ Exact.check.bind fun _ ↦
      (readClientBlock_exact.repeatN _).bind fun _ ↦ Exact.check.bind fun _ ↦ Exact.pure _)
    (Guarded.bind fun _ ↦ Guarded.bind fun _ ↦ Guarded.bind fun _ ↦ Guarded.bind fun _ ↦
      Guarded.check_pure _)

theorem deserializeClientVarClear_prefixExact : PrefixExact deserializeClientVarClear :=
  Exact.prefixExact (by decide : 0 < sizeMod)
    ((beginMessage_exact _ _).bind fun _ ↦ readU16_exact.bind fun _ ↦
      readString8_exact.bind fun _ ↦ Exact.check.bind fun _ ↦ Exact.pure _)
    (Guarded.bind fun _ ↦ Guarded.bind fun _ ↦ Guarded.bind fun _ ↦ Guarded.check_pure _)

theorem deserializeObjectPose_prefixExact [Double D] :
    PrefixExact (deserializeObjectPose : Read (ObjectPoseMessage D)) :=
  Exact.prefixExact (by decide : 0 < sizeMod)
    ((beginMessage_exact _ _).bind fun _ ↦ readString8_exact.bind fun _ ↦
      readU32_exact.bind fun _ ↦ readU16_exact.bind fun _ ↦ readI24_exact.bind fun _ ↦
        readI24_exact.bind fun _ ↦ readI24_exact.bind fun _ ↦ readU32_exact.bind fun _ ↦
          Exact.check.bind fun _ ↦ Exact.pure _)
    (Guarded.bind fun _ ↦ Guarded.bind fun _ ↦ Guarded.bind fun _ ↦ Guarded.bind fun _ ↦
      Guarded.bind fun _ ↦ Guarded.bind fun _ ↦ Guarded.bind fun _ ↦ Guarded.bind fun _ ↦
        Guarded.check_pure _)

theorem deserializeRoomObjects_prefixExact [Double D] :
    PrefixExact (deserializeRoomObjects : Read (RoomObjectsMessage D)) :=
  Exact.prefixExact (by decide : 0 < sizeMod)
    ((beginMessage_exact _ _).bind fun _ ↦ readF64_exact.bind fun _ ↦
      readU16_exact.bind fun _ ↦ Exact.check.bind fun _ ↦
        (readRoomObject_exact.repeatN _).bind fun _ ↦ Exact.check.bind fun _ ↦ Exact.pure _)
    (Guarded.bind fun _ ↦ Guarded.bind fun _ ↦ Guarded.bind fun _ ↦ Guarded.bind fun _ ↦
      Guarded.bind fun _ ↦ Guarded.check_pure _)

theorem deserializeObjectOwnershipRequest_prefixExact :
    PrefixExact deserializeObjectOwnershipRequest :=
  Exact.prefixExact (by decide : 0 < sizeMod)
    ((beginMessage_exact _ _).bind fun _ ↦ readString8_exact.bind fun _ ↦
      readU8_exact.bind fun _ ↦ readU32_exact.bind fun _ ↦
        Exact.check.bind fun _ ↦ Exact.pure _)
    (Guarded.bind fun _ ↦ Guarded.bind fun _ ↦ Guarded.bind fun _ ↦ Guarded.bind fun _ ↦
      Guarded.check_pure _)

theorem deserializeObjectOwnershipChanged_prefixExact :
    PrefixExact deserializeObjectOwnershipChanged :=
  Exact.prefixExact (by decide : 0 < sizeMod)
    ((beginMessage_exact _ _).bind fun _ ↦ readU32_exact.bind fun _ ↦
      readU16_exact.bind fun _ ↦ readU16_exact.bind fun _ ↦
        Exact.check.bind fun _ ↦ Exact.pure _)
    (Guarded.bind fun _ ↦ Guarded.bind fun _ ↦ Guarded.bind fun _ ↦ Guarded.bind fun _ ↦
      Guarded.check_pure _)

theorem deserializeObjectOwnershipRejected_prefixExact :
    PrefixExact deserializeObjectOwnershipRejected :=
  Exact.prefixExact (by decide : 0 < sizeMod)
    ((beginMessage_exact _ _).bind fun _ ↦ readU32_exact.bind fun _ ↦
      readU16_exact.bind fun _ ↦ readU8_exact.bind fun _ ↦
        Exact.check.bind fun _ ↦ Exact.pure _)
    (Guarded.bind fun _ ↦ Guarded.bind fun _ ↦ Guarded.bind fun _ ↦ Guarded.bind fun _ ↦
      Guarded.check_pure _)

end StylyNetSync
