import Mathlib.Data.FinEnum
import StylyNetSync.Protocol.RoundTrip

/-!
# The avatar pose body stays aligned

Writer and reader decide independently which blocks of a pose body are there: the writer from the
sanitised flags, the reader from the flags byte. Since that byte is the sanitised flags, the two
agree on every block, and since the encoding byte is derived from the same flags, a delta is never
refused. The body decodes to `ClientPoseBody.onWire`, which is spelled in the words the writer
quantised: what the reader makes of them is its own arithmetic, over the head it decoded.
-/

open Scan

namespace StylyNetSync

variable {D : Type}

/-! ### What the wire keeps of a body -/

/-- A hand or virtual transform: the writer's words relative to the head it had, put back on the
head the reader decoded. -/
def wireRelative [Double D] (sent read : PoseTransform D) (transform : PoseTransform D) :
    PoseTransform D :=
  relativeTransform read.position read.rotation
    (quantizeSigned (transform.position.x - sent.position.x) kRelPosScale)
    (quantizeSigned (transform.position.y - sent.position.y) kRelPosScale)
    (quantizeSigned (transform.position.z - sent.position.z) kRelPosScale)
    (compressQuaternionSmallestThree
      (quaternionMultiply (quaternionInverse (normalizeQuaternion sent.rotation))
        (normalizeQuaternion transform.rotation)))

/-- The head as its words, or the default transform without the flag. -/
def wireHead [Double D] (flags : UInt8) (head : PoseTransform D) : PoseTransform D :=
  if hasFlag flags PoseFlag.headValid then
    ⟨wirePosition head.position, wireRotation (normalizeQuaternion head.rotation)⟩
  else PoseTransform.default

/-- The four locomotion words: the pose on a moving floor, otherwise the delta of the origin. -/
def wireLocomotion [DoubleTrig D] (flags : UInt8) (body : ClientPoseBody D) :
    Int16 × Int16 × Int16 × Int16 :=
  if hasFlag flags PoseFlag.physicalValid then
    if hasFlag flags PoseFlag.movingFloorLocal then
      (quantizeSigned body.physical.position.x kLocoPosScale,
        quantizeSigned body.physical.position.y kLocoPosScale,
        quantizeSigned body.physical.position.z kLocoPosScale,
        quantizeSigned (quaternionToYawDegrees body.physical.rotation) kPhysicalYawScale)
    else
      (quantizeSigned body.xrOriginDeltaPosition.x kLocoPosScale,
        quantizeSigned body.xrOriginDeltaPosition.y kLocoPosScale,
        quantizeSigned body.xrOriginDeltaPosition.z kLocoPosScale,
        quantizeSigned body.xrOriginDeltaYaw kPhysicalYawScale)
  else (0, 0, 0, 0)

/-- The body the reader builds from what the writer put on the wire. -/
def ClientPoseBody.onWire [DoubleTrig D] (body : ClientPoseBody D) : ClientPoseBody D :=
  let flags := sanitizePoseFlags body.flags
  let headValid := hasFlag flags PoseFlag.headValid
  let head := wireHead flags body.head
  let words := wireLocomotion flags body
  let isDelta := hasFlag flags PoseFlag.physicalValid && !hasFlag flags PoseFlag.movingFloorLocal
  let deltaPosition : Vec3 D :=
    if isDelta then locomotionPosition words.1 words.2.1 words.2.2.1 else Vec3.zero
  let deltaYaw : D :=
    if isDelta then dequantizeSigned words.2.2.2.toInt kPhysicalYawScale else Double.lit 0
  { poseSeq := body.poseSeq
    flags := flags
    encodingFlags := computeEncodingFlags flags
    xrOriginDeltaPosition := deltaPosition
    xrOriginDeltaYaw := deltaYaw
    physical :=
      reconstructPhysical flags deltaPosition deltaYaw words.1 words.2.1 words.2.2.1 words.2.2.2
        head
    head := head
    rightHand :=
      if headValid && hasFlag flags PoseFlag.rightValid then
        wireRelative body.head head body.rightHand
      else PoseTransform.default
    leftHand :=
      if headValid && hasFlag flags PoseFlag.leftValid then
        wireRelative body.head head body.leftHand
      else PoseTransform.default
    virtuals :=
      if headValid && hasFlag flags PoseFlag.virtualsValid then
        (body.virtuals.take kMaxVirtualTransforms).map (wireRelative body.head head)
      else [] }

def ClientPoseMessage.onWire [DoubleTrig D] (m : ClientPoseMessage D) : ClientPoseMessage D :=
  { deviceId := wireString8 m.deviceId, body := m.body.onWire }

def RoomPoseClient.onWire [DoubleTrig D] (c : RoomPoseClient D) : RoomPoseClient D :=
  { c with body := c.body.onWire }

def RoomPoseMessage.onWire [DoubleTrig D] (m : RoomPoseMessage D) : RoomPoseMessage D :=
  { m with roomId := wireString8 m.roomId, clients := m.clients.map RoomPoseClient.onWire }

/-! ### Blocks of the body -/

/-- Without a moving floor the derived encoding byte marks the locomotion block as a delta. -/
theorem hasFlag_computeEncodingFlags {flags : UInt8}
    (h : hasFlag flags PoseFlag.movingFloorLocal = false) :
    hasFlag (computeEncodingFlags flags) EncodingFlag.physicalIsXrOriginDelta = true := by
  rw [computeEncodingFlags, if_neg (by simp [h])]
  rfl

/-- The virtuals flag survives sanitising only beside the head flag. -/
theorem headValid_of_virtualsValid (flags : UInt8) :
    hasFlag (sanitizePoseFlags flags) PoseFlag.virtualsValid = true →
      hasFlag (sanitizePoseFlags flags) PoseFlag.headValid = true := by
  revert flags
  decide +kernel

theorem readRelative_parses [Double D] (sent read transform : PoseTransform D) :
    Parses sizeMod (readRelative read.position read.rotation)
      (writeRelative sent.position (quaternionInverse (normalizeQuaternion sent.rotation))
        transform)
      (wireRelative sent read transform) := by
  refine (readI16_parses _).cons <| (readI16_parses _).cons <| (readI16_parses _).cons <|
    (readU32_parses _).cons ?_
  intro before after _
  rfl

theorem readLocomotion_parses [DoubleTrig D] (flags : UInt8) (body : ClientPoseBody D) :
    Parses sizeMod (readLocomotion flags (computeEncodingFlags flags))
      (if hasFlag flags PoseFlag.physicalValid then
        if hasFlag flags PoseFlag.movingFloorLocal then
          writeLocomotion body.physical.position (quaternionToYawDegrees body.physical.rotation)
        else writeLocomotion body.xrOriginDeltaPosition body.xrOriginDeltaYaw
      else [])
      (wireLocomotion flags body) := by
  rw [readLocomotion, wireLocomotion]
  by_cases hphysical : hasFlag flags PoseFlag.physicalValid = true
  · rw [if_pos hphysical, if_pos hphysical, if_pos hphysical]
    by_cases hfloor : hasFlag flags PoseFlag.movingFloorLocal = true
    · rw [if_neg (by simp [hfloor]), if_pos hfloor, if_pos hfloor]
      exact (readI16_parses _).cons <| (readI16_parses _).cons <| (readI16_parses _).cons <|
        (readI16_parses _).cons <| Parses.pure _
    · -- the encoding byte carries the delta flag, so the reader does not refuse
      have hdelta := hasFlag_computeEncodingFlags (Bool.eq_false_iff.mpr hfloor)
      rw [if_neg (by simp [hdelta]), if_neg hfloor, if_neg hfloor]
      exact (readI16_parses _).cons <| (readI16_parses _).cons <| (readI16_parses _).cons <|
        (readI16_parses _).cons <| Parses.pure _
  · rw [if_neg hphysical, if_neg hphysical, if_neg hphysical]
    exact Parses.pure _

theorem readHead_parses [Double D] (flags : UInt8) (head : PoseTransform D) :
    Parses sizeMod (readHead flags)
      (if hasFlag flags PoseFlag.headValid then
        writeObjectTransform head.position (normalizeQuaternion head.rotation) else [])
      (wireHead flags head) := by
  rw [readHead, wireHead]
  by_cases hhead : hasFlag flags PoseFlag.headValid = true
  · rw [if_pos hhead, if_pos hhead, if_pos hhead]
    have hwords := readObjectTransform_parses head.position (normalizeQuaternion head.rotation)
      (f := fun hx hy hz packedHead ↦ Scan.check >>= fun _ ↦
        pure (⟨absolutePosition hx hy hz, decompressQuaternionSmallestThree packedHead⟩ :
          PoseTransform D))
      (check_pure_parses _)
    rwa [List.flatten_cons, List.flatten_nil, List.append_nil] at hwords
  · rw [if_neg hhead, if_neg hhead, if_neg hhead]
    exact Parses.pure _

theorem readHand_parses [Double D] (valid : Bool) (sent read hand : PoseTransform D) :
    Parses sizeMod (readHand valid read)
      (if valid then
        writeRelative sent.position (quaternionInverse (normalizeQuaternion sent.rotation)) hand
      else [])
      (if valid then wireRelative sent read hand else PoseTransform.default) := by
  cases valid with
  | false => exact Parses.pure _
  | true => exact readRelative_parses sent read hand

theorem readVirtual_parses [Double D] (sent read transform : PoseTransform D) :
    Parses sizeMod (readVirtual read)
      (writeRelative sent.position (quaternionInverse (normalizeQuaternion sent.rotation))
        transform)
      (wireRelative sent read transform) :=
  (readRelative_parses sent read transform).bind_nil (check_pure_parses _)

/-- The count byte says how many transforms follow: at most fifty, and none without the flag. -/
theorem readVirtuals_parses [Double D] (flags : UInt8) (sent read : PoseTransform D)
    (virtuals : List (PoseTransform D)) {count : ℕ}
    (hcount : count =
      if hasFlag flags PoseFlag.headValid && hasFlag flags PoseFlag.virtualsValid then
        min virtuals.length kMaxVirtualTransforms else 0) :
    Parses sizeMod (readVirtuals flags read)
      [writeU8 (UInt8.ofNat count),
        (virtuals.take count).flatMap
          (writeRelative sent.position
            (quaternionInverse (normalizeQuaternion sent.rotation)))].flatten
      (if hasFlag flags PoseFlag.headValid && hasFlag flags PoseFlag.virtualsValid then
        (virtuals.take kMaxVirtualTransforms).map (wireRelative sent read) else []) := by
  have hle : count ≤ kMaxVirtualTransforms ∧ count ≤ virtuals.length := by
    rw [hcount]
    split <;> omega
  have hbyte : min (UInt8.ofNat count).toNat kMaxVirtualTransforms =
      (virtuals.take count).length := by
    rw [UInt8.toNat_ofNat', List.length_take]
    simp only [kMaxVirtualTransforms] at hle ⊢
    omega
  have hentries : Parses sizeMod (repeatN (virtuals.take count).length (readVirtual read))
      ((virtuals.take count).flatMap (writeRelative sent.position
        (quaternionInverse (normalizeQuaternion sent.rotation))))
      ((virtuals.take count).map (wireRelative sent read)) :=
    Parses.repeatN fun transform _ ↦ readVirtual_parses sent read transform
  -- the reader clamps the count byte again, which changes nothing
  refine (readU8_parses _).cons (Parses.check_bind ?_)
  rw [hbyte]
  refine hentries.cons ?_
  split at hcount
  · next hvalid =>
    rw [if_pos hvalid, if_pos hvalid, hcount, Nat.min_comm, ← List.take_take, List.take_length]
    exact Parses.pure _
  · next hvalid =>
    rw [if_neg hvalid, if_neg hvalid]
    exact Parses.pure _

/-- **The body stays aligned.** -/
theorem readPoseBody_parses [DoubleTrig D] (body : ClientPoseBody D) :
    Parses sizeMod readPoseBody (writePoseBody body) body.onWire := by
  have hvirtuals := readVirtuals_parses (sanitizePoseFlags body.flags) body.head
    (wireHead (sanitizePoseFlags body.flags) body.head) body.virtuals rfl
  have htail := hvirtuals.bind_nil (f := fun virtuals ↦ Scan.check >>= fun _ ↦
    pure { body.onWire with virtuals := virtuals }) (check_pure_parses _)
  exact (readU16_parses _).cons <| (readU8_parses _).cons <| (readU8_parses _).cons <|
    Parses.check_bind <| (readLocomotion_parses _ body).cons <|
      (readHead_parses _ body.head).cons <|
      (readHand_parses _ body.head _ body.rightHand).cons <|
        (readHand_parses _ body.head _ body.leftHand).cons htail

/-! ### Messages -/

/-- An optional block is no longer than the block. -/
theorem length_optional_le {present : Bool} {block : Bytes} {n : ℕ} (h : block.length ≤ n) :
    (if present then block else []).length ≤ n := by
  cases present with
  | false => exact Nat.zero_le n
  | true => exact h

theorem length_writeLocomotion [Double D] (position : Vec3 D) (yaw : D) :
    (writeLocomotion position yaw).length = 8 := by
  simp [writeLocomotion]

theorem length_writeRelative [Double D] (headPosition : Vec3 D) (invHeadRot : Quat D)
    (transform : PoseTransform D) :
    (writeRelative headPosition invHeadRot transform).length = 10 := by
  simp [writeRelative]

theorem length_writePoseBody_le [DoubleTrig D] (body : ClientPoseBody D) :
    (writePoseBody body).length ≤ 546 := by
  have hlocomotion : ∀ flags : UInt8,
      (if hasFlag flags PoseFlag.physicalValid then
        if hasFlag flags PoseFlag.movingFloorLocal then
          writeLocomotion body.physical.position (quaternionToYawDegrees body.physical.rotation)
        else writeLocomotion body.xrOriginDeltaPosition body.xrOriginDeltaYaw
      else []).length ≤ 8 := by
    intro flags
    refine length_optional_le ?_
    split <;> exact (length_writeLocomotion _ _).le
  have hhand : ∀ (valid : Bool) (invHeadRot : Quat D) (hand : PoseTransform D),
      (if valid then writeRelative body.head.position invHeadRot hand else []).length ≤ 10 :=
    fun _ _ _ ↦ length_optional_le (length_writeRelative _ _ _).le
  have hhead : ∀ (valid : Bool) (rotation : Quat D),
      (if valid then writeObjectTransform body.head.position rotation else []).length ≤ 13 :=
    fun _ _ ↦ length_optional_le (length_writeObjectTransform _ _).le
  have hvirtuals : ∀ (count : ℕ) (invHeadRot : Quat D), count ≤ kMaxVirtualTransforms →
      ((body.virtuals.take count).flatMap
        (writeRelative body.head.position invHeadRot)).length ≤ 500 := by
    intro count invHeadRot hcount
    have hlist := length_flatMap_le (writeRelative body.head.position invHeadRot)
      (body.virtuals.take count) fun transform _ ↦ (length_writeRelative _ _ transform).le
    rw [List.length_take] at hlist
    simp only [kMaxVirtualTransforms] at hcount
    omega
  -- 2 + 1 + 1 bytes of header, 8 + 13 + 10 + 10 of blocks, a count and fifty virtuals
  simp only [writePoseBody, length_flatten_cons, List.flatten_nil, List.length_nil,
    length_writeU8, length_writeU16]
  have h₁ := hlocomotion (sanitizePoseFlags body.flags)
  have h₂ := hhead (hasFlag (sanitizePoseFlags body.flags) PoseFlag.headValid)
    (normalizeQuaternion body.head.rotation)
  have h₃ := hhand (hasFlag (sanitizePoseFlags body.flags) PoseFlag.headValid &&
    hasFlag (sanitizePoseFlags body.flags) PoseFlag.rightValid)
    (quaternionInverse (normalizeQuaternion body.head.rotation)) body.rightHand
  have h₄ := hhand (hasFlag (sanitizePoseFlags body.flags) PoseFlag.headValid &&
    hasFlag (sanitizePoseFlags body.flags) PoseFlag.leftValid)
    (quaternionInverse (normalizeQuaternion body.head.rotation)) body.leftHand
  have h₅ := hvirtuals (if hasFlag (sanitizePoseFlags body.flags) PoseFlag.headValid &&
      hasFlag (sanitizePoseFlags body.flags) PoseFlag.virtualsValid then
      min body.virtuals.length kMaxVirtualTransforms else 0)
    (quaternionInverse (normalizeQuaternion body.head.rotation)) (by split <;> omega)
  omega

theorem clientPose_roundTrips [DoubleTrig D] (m : ClientPoseMessage D) :
    RoundTrips deserializeClientPose (serializeClientPose m) m.onWire := by
  refine Parses.run (M := sizeMod) (beginMessage_versioned <| (readString8_parses _).cons <|
    Parses.check_bind <| (readPoseBody_parses m.body).cons <| Parses.pure _) ?_
  have hdevice := length_writeString8_le m.deviceId
  have hlength := length_writePoseBody_le m.body
  simp only [serializeClientPose, length_flatten_cons, List.flatten_nil, List.length_nil,
    length_writeU8, sizeMod]
  omega

theorem readRoomPoseClient_parses [DoubleTrig D] (client : RoomPoseClient D) :
    Parses sizeMod readRoomPoseClient (writeRoomPoseClient client) client.onWire :=
  (readU16_parses _).cons <| (readF64_parses _).cons <| Parses.check_bind <|
    (readPoseBody_parses client.body).cons <| Parses.pure _

theorem length_writeRoomPoseClient_le [DoubleTrig D] (client : RoomPoseClient D) :
    (writeRoomPoseClient client).length ≤ 556 := by
  have hbody := length_writePoseBody_le client.body
  simp only [writeRoomPoseClient, length_flatten_cons, List.flatten_nil, List.length_nil,
    length_writeU16, length_writeF64]
  omega

theorem roomPose_roundTrips [DoubleTrig D] (m : RoomPoseMessage D)
    (h : m.clients.length ≤ 65535) :
    RoundTrips deserializeRoomPose (serializeRoomPose m) m.onWire := by
  refine Parses.run (M := sizeMod) (beginMessage_versioned <| (readString8_parses _).cons <|
    (readF64_parses _).cons <|
      counted_parses h (fun client _ ↦ readRoomPoseClient_parses client) (check_pure_parses _)) ?_
  have hroom := length_writeString8_le m.roomId
  have hlist := length_flatMap_le writeRoomPoseClient m.clients fun client _ ↦
    length_writeRoomPoseClient_le client
  simp only [serializeRoomPose, length_flatten_cons, List.flatten_nil, List.length_nil,
    length_writeU8, length_writeU16, length_writeF64, sizeMod]
  omega

/-! ### What the decoded body says -/

/-- The transforms that come back: at most fifty where the flag survives sanitising, none
otherwise. -/
theorem length_virtuals_onWire [DoubleTrig D] (body : ClientPoseBody D) :
    body.onWire.virtuals.length =
      if hasFlag (sanitizePoseFlags body.flags) PoseFlag.virtualsValid then
        min 50 body.virtuals.length else 0 := by
  have hhead := headValid_of_virtualsValid body.flags
  simp only [ClientPoseBody.onWire]
  by_cases hvirtuals : hasFlag (sanitizePoseFlags body.flags) PoseFlag.virtualsValid = true
  · rw [if_pos hvirtuals, if_pos (by simp [hvirtuals, hhead hvirtuals])]
    simp [kMaxVirtualTransforms]
  · rw [if_neg hvirtuals, if_neg (by simp [hvirtuals])]
    rfl

/-- The parts of a body whose flag is clear after sanitising. -/
def ClientPoseBody.ClearPartsDefault [Double D] (body : ClientPoseBody D) : Prop :=
  (hasFlag body.flags PoseFlag.physicalValid = false →
    body.physical = PoseTransform.default ∧ body.xrOriginDeltaPosition = Vec3.zero ∧
      body.xrOriginDeltaYaw = Double.lit 0) ∧
  (hasFlag body.flags PoseFlag.headValid = false → body.head = PoseTransform.default) ∧
  (hasFlag body.flags PoseFlag.rightValid = false → body.rightHand = PoseTransform.default) ∧
  (hasFlag body.flags PoseFlag.leftValid = false → body.leftHand = PoseTransform.default)

theorem clearPartsDefault_onWire [DoubleTrig D] (body : ClientPoseBody D) :
    body.onWire.ClearPartsDefault := by
  refine ⟨fun h ↦ ?_, fun h ↦ ?_, fun h ↦ ?_, fun h ↦ ?_⟩ <;>
    simp only [ClientPoseBody.onWire] at h ⊢
  · simp [h, reconstructPhysical]
  · simp [h, wireHead]
  · simp [h]
  · simp [h]

/-- **Avatar poses stay aligned and keep their integers.** Both pose messages are accepted and
consumed to the last byte, and every body comes back as the words the writer quantised, under
sanitised flags. -/
theorem poses_roundTrip [DoubleTrig D] :
    (∀ m : ClientPoseMessage D,
      RoundTrips deserializeClientPose (serializeClientPose m) m.onWire) ∧
    (∀ m : RoomPoseMessage D, m.clients.length ≤ 65535 →
      RoundTrips deserializeRoomPose (serializeRoomPose m) m.onWire) ∧
    ∀ body : ClientPoseBody D,
      body.onWire.poseSeq = body.poseSeq ∧
      body.onWire.flags = sanitizePoseFlags body.flags ∧
      body.onWire.encodingFlags = computeEncodingFlags (sanitizePoseFlags body.flags) ∧
      body.onWire.virtuals.length =
        (if hasFlag (sanitizePoseFlags body.flags) PoseFlag.virtualsValid then
          min 50 body.virtuals.length else 0) ∧
      body.onWire.ClearPartsDefault :=
  ⟨clientPose_roundTrips, roomPose_roundTrips, fun body ↦
    ⟨rfl, rfl, rfl, length_virtuals_onWire body, clearPartsDefault_onWire body⟩⟩

/-- An avatar with every block, its locomotion a delta of the origin, and a reserved flag. -/
def standingBody : ClientPoseBody ℚ where
  poseSeq := 65535
  flags := 0xBE
  encodingFlags := 0
  xrOriginDeltaPosition := ⟨1 / 2, 0, -3 / 10⟩
  xrOriginDeltaYaw := 45
  physical := PoseTransform.default
  head := ⟨⟨1, 17 / 10, -2⟩, ⟨0, 3 / 5, 0, 4 / 5⟩⟩
  rightHand := ⟨⟨13 / 10, 1, -2⟩, ⟨3 / 5, 0, 0, 4 / 5⟩⟩
  leftHand := ⟨⟨7 / 10, 1, -2⟩, ⟨0, 0, 4 / 5, 3 / 5⟩⟩
  virtuals := [⟨⟨1, 1, -1⟩, Quat.identity⟩, ⟨⟨2, 0, -2⟩, ⟨1, 0, 0, 0⟩⟩]

/-- An avatar on a moving floor, without a left hand, with one virtual transform too many. -/
def ridingBody : ClientPoseBody ℚ :=
  { standingBody with
    flags := 0x6E
    physical := ⟨⟨5, 0, 1 / 4⟩, ⟨0, 4 / 5, 0, 3 / 5⟩⟩
    virtuals := List.replicate 51 ⟨⟨0, 1, -2⟩, Quat.identity⟩ }

/-- A right hand without a head, which does not survive sanitising. -/
def handBody : ClientPoseBody ℚ := { standingBody with flags := PoseFlag.rightValid }

def roomOfThree : RoomPoseMessage ℚ :=
  ⟨[114], 1, [⟨5, 2, standingBody⟩, ⟨6, 3, ridingBody⟩, ⟨7, 4, handBody⟩]⟩

/-- The reader finds its way past all blocks of two avatars to the third. -/
theorem poses_roundTrip_roomOfThree :
    RoundTrips deserializeClientPose (serializeClientPose ⟨[100], standingBody⟩)
        (ClientPoseMessage.onWire ⟨[100], standingBody⟩) ∧
      RoundTrips deserializeRoomPose (serializeRoomPose roomOfThree) roomOfThree.onWire ∧
      roomOfThree.onWire.clients.map
          (fun client ↦ (client.body.flags, client.body.encodingFlags)) =
        [(0xBE, 0x1F), (0x6E, 0x0F), (0, 0x1F)] ∧
      roomOfThree.onWire.clients.map
          (fun client ↦ [client.body.head, client.body.rightHand, client.body.leftHand].map
            fun part ↦ [part.position.x, part.position.y, part.position.z]) =
        [[[1, 17 / 10, -2], [13 / 10, 1, -2], [7 / 10, 1, -2]],
          [[1, 17 / 10, -2], [13 / 10, 1, -2], [0, 0, 0]], [[0, 0, 0], [0, 0, 0], [0, 0, 0]]] ∧
      standingBody.onWire.xrOriginDeltaPosition.x = 1 / 2 ∧
      standingBody.onWire.xrOriginDeltaYaw = 45 ∧
      ridingBody.onWire.physical.position.x = 5 ∧
      standingBody.onWire.virtuals.map (fun transform ↦ transform.position.x) = [1, 2] ∧
      ridingBody.onWire.virtuals.length = 50 := by
  have h := poses_roundTrip (D := ℚ)
  refine ⟨h.1 ⟨[100], standingBody⟩, h.2.1 roomOfThree (by decide), by decide +kernel,
    by decide +kernel, by decide +kernel, by decide +kernel, by decide +kernel, by decide +kernel,
    (h.2.2 ridingBody).2.2.2.1.trans (by decide)⟩

end StylyNetSync
