import StylyNetSync.Protocol.PoseBody
import StylyNetSync.Protocol.PrefixExact

/-!
# Truncated messages are rejected

Acceptance depends on the consumed bytes only (`PrefixExact`), and a serialised message is consumed
whole (`RoundTrips`), so cutting one anywhere makes it unacceptable. The second half needs the count
field to say how many records follow. A list that does not fit its 16-bit count is written in full
behind a count that wrapped around, and then the reader stops early and never looks at the rest.
-/

open Scan

namespace StylyNetSync

variable {D : Type}

/-- No proper initial segment of the bytes is accepted. -/
def RejectsStrictPrefixes {α : Type} (deserialize : Read α) (bytes : Bytes) : Prop :=
  ∀ short, short <+: bytes → short.length < bytes.length → (deserialize.run short).1 = none

theorem RoundTrips.rejectsStrictPrefixes {α : Type} {deserialize : Read α} {bytes : Bytes} {a : α}
    (h : RoundTrips deserialize bytes a) (hexact : PrefixExact deserialize) :
    RejectsStrictPrefixes deserialize bytes :=
  fun _ hpre hlt ↦ hexact.strict h hpre hlt

/-- The handshake pose is the client pose of a stealth body. -/
theorem serializeStealthHandshakePose_eq [DoubleTrig D] (deviceId : Bytes) (body : ClientPoseBody D)
    (hseq : body.poseSeq = 0) (hflags : body.flags = PoseFlag.stealth) :
    serializeStealthHandshakePose deviceId = serializeClientPose ⟨deviceId, body⟩ := by
  have hsanitized : sanitizePoseFlags PoseFlag.stealth = PoseFlag.stealth := by decide
  have hencoding : computeEncodingFlags PoseFlag.stealth = EncodingFlag.flagsDefault := by decide
  have hphysical : hasFlag PoseFlag.stealth PoseFlag.physicalValid = false := by decide
  have hhead : hasFlag PoseFlag.stealth PoseFlag.headValid = false := by decide
  simp [serializeStealthHandshakePose, serializeClientPose, writePoseBody, hseq, hflags, hsanitized,
    hencoding, hphysical, hhead]

theorem stealthHandshakePose_roundTrips [DoubleTrig D] (deviceId : Bytes) :
    ∃ m : ClientPoseMessage D,
      RoundTrips deserializeClientPose (serializeStealthHandshakePose deviceId) m := by
  let body : ClientPoseBody D :=
    { poseSeq := 0
      flags := PoseFlag.stealth
      encodingFlags := 0
      xrOriginDeltaPosition := Vec3.zero
      xrOriginDeltaYaw := Double.lit 0
      physical := PoseTransform.default
      head := PoseTransform.default
      rightHand := PoseTransform.default
      leftHand := PoseTransform.default
      virtuals := [] }
  rw [serializeStealthHandshakePose_eq deviceId body rfl rfl]
  exact ⟨_, clientPose_roundTrips _⟩

/-- **Every deserialiser is prefix-exact**, on arbitrary bytes; and every strict prefix of a
serialised message is rejected as long as the counted lists fit their 16-bit count. -/
theorem deserializers_prefixExact [DoubleTrig D] :
    (PrefixExact deserializeClientHello ∧
      PrefixExact (deserializeClientPose : Read (ClientPoseMessage D)) ∧
      PrefixExact (deserializeRoomPose : Read (RoomPoseMessage D)) ∧
      PrefixExact deserializeRpc ∧
      PrefixExact deserializeDeviceIdMapping ∧
      PrefixExact deserializeGlobalVarSet ∧
      PrefixExact deserializeGlobalVarSync ∧
      PrefixExact deserializeClientVarSet ∧
      PrefixExact deserializeClientVarSync ∧
      PrefixExact deserializeClientVarClear ∧
      PrefixExact (deserializeObjectPose : Read (ObjectPoseMessage D)) ∧
      PrefixExact (deserializeRoomObjects : Read (RoomObjectsMessage D)) ∧
      PrefixExact deserializeObjectOwnershipRequest ∧
      PrefixExact deserializeObjectOwnershipChanged ∧
      PrefixExact deserializeObjectOwnershipRejected) ∧
    (∀ deviceId isStealth,
      RejectsStrictPrefixes deserializeClientHello (serializeClientHello deviceId isStealth)) ∧
    (∀ m : ClientPoseMessage D,
      RejectsStrictPrefixes (deserializeClientPose : Read (ClientPoseMessage D))
        (serializeClientPose m)) ∧
    (∀ deviceId, RejectsStrictPrefixes (deserializeClientPose : Read (ClientPoseMessage D))
        (serializeStealthHandshakePose deviceId)) ∧
    (∀ m : RoomPoseMessage D, m.clients.length ≤ 65535 →
      RejectsStrictPrefixes (deserializeRoomPose : Read (RoomPoseMessage D))
        (serializeRoomPose m)) ∧
    (∀ m, RejectsStrictPrefixes deserializeRpc (serializeRpc m)) ∧
    (∀ m : DeviceIdMappingMessage, m.mappings.length ≤ 65535 →
      RejectsStrictPrefixes deserializeDeviceIdMapping (serializeDeviceIdMapping m)) ∧
    (∀ m, RejectsStrictPrefixes deserializeGlobalVarSet (serializeGlobalVarSet m)) ∧
    (∀ m : GlobalVarSyncMessage, m.vars.length ≤ 65535 →
      RejectsStrictPrefixes deserializeGlobalVarSync (serializeGlobalVarSync m)) ∧
    (∀ m, RejectsStrictPrefixes deserializeClientVarSet (serializeClientVarSet m)) ∧
    (∀ m : ClientVarSyncMessage, m.clients.length ≤ 65535 →
      (∀ client ∈ m.clients, client.2.length ≤ 65535) →
      RejectsStrictPrefixes deserializeClientVarSync (serializeClientVarSync m)) ∧
    (∀ m, RejectsStrictPrefixes deserializeClientVarClear (serializeClientVarClear m)) ∧
    (∀ m : ObjectPoseMessage D,
      RejectsStrictPrefixes (deserializeObjectPose : Read (ObjectPoseMessage D))
        (serializeObjectPose m)) ∧
    (∀ m : RoomObjectsMessage D, m.objects.length ≤ 65535 →
      RejectsStrictPrefixes (deserializeRoomObjects : Read (RoomObjectsMessage D))
        (serializeRoomObjects m)) ∧
    (∀ m, RejectsStrictPrefixes deserializeObjectOwnershipRequest
      (serializeObjectOwnershipRequest m)) ∧
    (∀ m, RejectsStrictPrefixes deserializeObjectOwnershipChanged
      (serializeObjectOwnershipChanged m)) ∧
    (∀ m, RejectsStrictPrefixes deserializeObjectOwnershipRejected
      (serializeObjectOwnershipRejected m)) := by
  refine ⟨⟨deserializeClientHello_prefixExact, deserializeClientPose_prefixExact,
    deserializeRoomPose_prefixExact, deserializeRpc_prefixExact,
    deserializeDeviceIdMapping_prefixExact, deserializeGlobalVarSet_prefixExact,
    deserializeGlobalVarSync_prefixExact, deserializeClientVarSet_prefixExact,
    deserializeClientVarSync_prefixExact, deserializeClientVarClear_prefixExact,
    deserializeObjectPose_prefixExact, deserializeRoomObjects_prefixExact,
    deserializeObjectOwnershipRequest_prefixExact, deserializeObjectOwnershipChanged_prefixExact,
    deserializeObjectOwnershipRejected_prefixExact⟩, ?_, ?_, ?_, ?_, ?_, ?_, ?_, ?_, ?_, ?_, ?_, ?_,
    ?_, ?_, ?_, ?_⟩
  · intro deviceId isStealth
    exact (clientHello_roundTrips deviceId isStealth).rejectsStrictPrefixes
      deserializeClientHello_prefixExact
  · intro m
    exact (clientPose_roundTrips m).rejectsStrictPrefixes deserializeClientPose_prefixExact
  · intro deviceId
    obtain ⟨m, hm⟩ := stealthHandshakePose_roundTrips (D := D) deviceId
    exact hm.rejectsStrictPrefixes deserializeClientPose_prefixExact
  · intro m h
    exact (roomPose_roundTrips m h).rejectsStrictPrefixes deserializeRoomPose_prefixExact
  · intro m
    exact (rpc_roundTrips m).rejectsStrictPrefixes deserializeRpc_prefixExact
  · intro m h
    exact (deviceIdMapping_roundTrips m h).rejectsStrictPrefixes
      deserializeDeviceIdMapping_prefixExact
  · intro m
    exact (globalVarSet_roundTrips m).rejectsStrictPrefixes deserializeGlobalVarSet_prefixExact
  · intro m h
    exact (globalVarSync_roundTrips m h).rejectsStrictPrefixes deserializeGlobalVarSync_prefixExact
  · intro m
    exact (clientVarSet_roundTrips m).rejectsStrictPrefixes deserializeClientVarSet_prefixExact
  · intro m h hblocks
    exact (clientVarSync_roundTrips m h hblocks).rejectsStrictPrefixes
      deserializeClientVarSync_prefixExact
  · intro m
    exact (clientVarClear_roundTrips m).rejectsStrictPrefixes deserializeClientVarClear_prefixExact
  · intro m
    exact (objectPose_roundTrips m).rejectsStrictPrefixes deserializeObjectPose_prefixExact
  · intro m h
    exact (roomObjects_roundTrips m h).rejectsStrictPrefixes deserializeRoomObjects_prefixExact
  · intro m
    exact (objectOwnershipRequest_roundTrips m).rejectsStrictPrefixes
      deserializeObjectOwnershipRequest_prefixExact
  · intro m
    exact (objectOwnershipChanged_roundTrips m).rejectsStrictPrefixes
      deserializeObjectOwnershipChanged_prefixExact
  · intro m
    exact (objectOwnershipRejected_roundTrips m).rejectsStrictPrefixes
      deserializeObjectOwnershipRejected_prefixExact

/-- One variable, cut behind the count: rejected. -/
theorem deserializers_prefixExact_globalVarSync :
    (deserializeGlobalVarSync.run [8, 1, 0]).1 = none :=
  (deserializers_prefixExact (D := ℚ)).2.2.2.2.2.2.2.2.1 ⟨[⟨[97], [98], 3⟩]⟩ (by decide) [8, 1, 0]
    (by decide) (by decide)

/-- A count that wrapped around to zero makes the first three bytes of a sync a message. -/
theorem globalVarSync_wrapped {m : GlobalVarSyncMessage} {entry : NetworkVariableEntry}
    (hmem : entry ∈ m.vars) (hcount : UInt16.ofNat m.vars.length = 0) :
    ¬ RejectsStrictPrefixes deserializeGlobalVarSync (serializeGlobalVarSync m) := by
  intro h
  have hbytes : serializeGlobalVarSync m = [8, 0, 0] ++ m.vars.flatMap writeVariableEntry := by
    rw [serializeGlobalVarSync, hcount]
    simp only [List.flatten_cons, List.flatten_nil, List.append_nil]
    rfl
  have hlong : 0 < (m.vars.flatMap writeVariableEntry).length := by
    rw [List.length_pos_iff_exists_mem]
    exact ⟨_, List.mem_flatMap.mpr ⟨entry, hmem, List.mem_cons_self⟩⟩
  have hrejected := h [8, 0, 0] (by rw [hbytes]; exact List.prefix_append _ _)
    (by rw [hbytes, List.length_append]; omega)
  have haccepted : (deserializeGlobalVarSync.run [8, 0, 0]).1 = some ⟨[]⟩ := by decide
  rw [haccepted] at hrejected
  simp at hrejected

/-- A global sync of 65536 variables is written behind the count zero. -/
theorem globalVarSync_65536_prefix_accepted :
    ¬ RejectsStrictPrefixes deserializeGlobalVarSync
      (serializeGlobalVarSync ⟨List.replicate 65536 ⟨[], [], 0⟩⟩) := by
  refine globalVarSync_wrapped (List.mem_replicate.mpr ⟨by omega, rfl⟩) ?_
  rw [List.length_replicate]
  decide

end StylyNetSync
