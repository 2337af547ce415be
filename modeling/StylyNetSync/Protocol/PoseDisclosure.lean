import Mathlib.Data.FinEnum
import StylyNetSync.Protocol.Messages

/-!
# What a pose message reveals

A pose body holds more than its flags declare valid. What goes on the wire is computed from the
disclosure of the body: the sequence number, the sanitised flags and the parts that these declare
valid (`write_disclosure`). Two messages with the same disclosure are therefore the same bytes,
whatever else they hold. The disclosure of a stealth client has no parts, and the bytes of such a
pose are those of the handshake that is written by a serialiser of its own.
-/

namespace StylyNetSync

variable {D : Type} [DoubleTrig D]

/-- The part of a pose body that its flags declare valid; `none` stands for a part that is not. The
locomotion is a position and a yaw: of the physical pose or of the delta of the origin. -/
structure PoseDisclosure (D : Type) where
  poseSeq : UInt16
  flags : UInt8
  locomotion : Option (Vec3 D × D)
  head : Option (PoseTransform D)
  rightHand : Option (PoseTransform D)
  leftHand : Option (PoseTransform D)
  virtuals : List (PoseTransform D)

/-- What the sanitised flags of a body let out. -/
def ClientPoseBody.disclosure (body : ClientPoseBody D) : PoseDisclosure D :=
  let flags := sanitizePoseFlags body.flags
  let headValid := hasFlag flags PoseFlag.headValid
  { poseSeq := body.poseSeq
    flags := flags
    locomotion :=
      if hasFlag flags PoseFlag.physicalValid then
        if hasFlag flags PoseFlag.movingFloorLocal then
          some (body.physical.position, quaternionToYawDegrees body.physical.rotation)
        else some (body.xrOriginDeltaPosition, body.xrOriginDeltaYaw)
      else none
    head := if headValid then some body.head else none
    rightHand :=
      if headValid && hasFlag flags PoseFlag.rightValid then some body.rightHand else none
    leftHand := if headValid && hasFlag flags PoseFlag.leftValid then some body.leftHand else none
    virtuals :=
      if headValid && hasFlag flags PoseFlag.virtualsValid then
        body.virtuals.take kMaxVirtualTransforms
      else [] }

/-- The bytes of a part, if it is there. -/
def writePart {α : Type} (write : α → Bytes) : Option α → Bytes
  | some part => write part
  | none => []

/-- Hands and virtuals are written relative to the head, and not at all without one. -/
def writeRelativeTo (head : Option (PoseTransform D)) (transform : PoseTransform D) : Bytes :=
  writePart (fun head ↦ writeRelative head.position
    (quaternionInverse (normalizeQuaternion head.rotation)) transform) head

/-- A pose body written from its disclosure alone. -/
def PoseDisclosure.write (d : PoseDisclosure D) : Bytes :=
  [writeU16 d.poseSeq,
    writeU8 d.flags,
    writeU8 (computeEncodingFlags d.flags),
    writePart (fun locomotion ↦ writeLocomotion locomotion.1 locomotion.2) d.locomotion,
    writePart (fun head ↦ writeObjectTransform head.position (normalizeQuaternion head.rotation))
      d.head,
    writePart (writeRelativeTo d.head) d.rightHand,
    writePart (writeRelativeTo d.head) d.leftHand,
    writeU8 (UInt8.ofNat d.virtuals.length),
    d.virtuals.flatMap (writeRelativeTo d.head)].flatten

theorem writePart_ite {α : Type} (write : α → Bytes) (p : Prop) [Decidable p] (part : α) :
    writePart write (if p then some part else none) = if p then write part else [] := by
  split <;> rfl

/-- The locomotion block is the one of the part that is let out. -/
theorem writePart_locomotion (flags : UInt8) (body : ClientPoseBody D)
    (h : sanitizePoseFlags body.flags = flags) :
    writePart (fun locomotion ↦ writeLocomotion locomotion.1 locomotion.2)
        body.disclosure.locomotion =
      if hasFlag flags PoseFlag.physicalValid then
        if hasFlag flags PoseFlag.movingFloorLocal then
          writeLocomotion body.physical.position (quaternionToYawDegrees body.physical.rotation)
        else writeLocomotion body.xrOriginDeltaPosition body.xrOriginDeltaYaw
      else [] := by
  subst h
  rw [ClientPoseBody.disclosure]
  dsimp only
  split
  · split <;> rfl
  · rfl

/-- **The serialiser sees the disclosure only.** -/
theorem write_disclosure (body : ClientPoseBody D) :
    body.disclosure.write = writePoseBody body := by
  rw [PoseDisclosure.write, writePart_locomotion _ body rfl, writePoseBody]
  simp only [ClientPoseBody.disclosure, writePart_ite]
  cases hasFlag (sanitizePoseFlags body.flags) PoseFlag.headValid with
  | false => simp
  | true =>
    have hrelative : writeRelativeTo (some body.head) = writeRelative body.head.position
        (quaternionInverse (normalizeQuaternion body.head.rotation)) := rfl
    simp only [Bool.true_and, if_true, hrelative]
    cases hasFlag (sanitizePoseFlags body.flags) PoseFlag.virtualsValid with
    | false => simp
    | true => simp [List.take_eq_take_min, Nat.min_comm]

/-! ### Two messages -/

/-- Two messages with the same device id, sequence number and sanitised flags that agree on the
parts these flags declare valid. Nothing is said of the other parts. -/
structure AgreeWhereValid (m m' : ClientPoseMessage D) : Prop where
  deviceId : m.deviceId = m'.deviceId
  poseSeq : m.body.poseSeq = m'.body.poseSeq
  flags : sanitizePoseFlags m.body.flags = sanitizePoseFlags m'.body.flags
  head : hasFlag (sanitizePoseFlags m.body.flags) PoseFlag.headValid = true →
    m.body.head = m'.body.head
  rightHand : hasFlag (sanitizePoseFlags m.body.flags) PoseFlag.rightValid = true →
    m.body.rightHand = m'.body.rightHand
  leftHand : hasFlag (sanitizePoseFlags m.body.flags) PoseFlag.leftValid = true →
    m.body.leftHand = m'.body.leftHand
  virtuals : hasFlag (sanitizePoseFlags m.body.flags) PoseFlag.virtualsValid = true →
    m.body.virtuals.take 50 = m'.body.virtuals.take 50
  physical : hasFlag (sanitizePoseFlags m.body.flags) PoseFlag.physicalValid = true →
    hasFlag (sanitizePoseFlags m.body.flags) PoseFlag.movingFloorLocal = true →
    m.body.physical = m'.body.physical
  xrOriginDelta : hasFlag (sanitizePoseFlags m.body.flags) PoseFlag.physicalValid = true →
    hasFlag (sanitizePoseFlags m.body.flags) PoseFlag.movingFloorLocal = false →
    m.body.xrOriginDeltaPosition = m'.body.xrOriginDeltaPosition ∧
      m.body.xrOriginDeltaYaw = m'.body.xrOriginDeltaYaw

/-- A part that is let out under a condition is the same on both sides. -/
theorem ite_congr_of {α : Type} {p : Bool} {a a' b : α} (h : p = true → a = a') :
    (if p then a else b) = if p then a' else b := by
  cases p with
  | false => rfl
  | true => exact h rfl

theorem AgreeWhereValid.disclosure_eq {m m' : ClientPoseMessage D} (h : AgreeWhereValid m m') :
    m.body.disclosure = m'.body.disclosure := by
  rw [ClientPoseBody.disclosure, ClientPoseBody.disclosure, PoseDisclosure.mk.injEq]
  rw [← h.flags, ← h.poseSeq]
  refine ⟨rfl, rfl, ite_congr_of fun hphysical ↦ ?_, ite_congr_of fun hhead ↦ ?_,
    ite_congr_of fun hright ↦ ?_, ite_congr_of fun hleft ↦ ?_, ite_congr_of fun hvirtuals ↦ ?_⟩
  · cases hfloor : hasFlag (sanitizePoseFlags m.body.flags) PoseFlag.movingFloorLocal with
    | false =>
      obtain ⟨hposition, hyaw⟩ := h.xrOriginDelta hphysical hfloor
      simp [hposition, hyaw]
    | true => simp [h.physical hphysical hfloor]
  · rw [h.head hhead]
  · rw [h.rightHand (Bool.and_eq_true_iff.mp hright).2]
  · rw [h.leftHand (Bool.and_eq_true_iff.mp hleft).2]
  · exact h.virtuals (Bool.and_eq_true_iff.mp hvirtuals).2

theorem serializeClientPose_of_disclosure_eq {m m' : ClientPoseMessage D}
    (hdeviceId : m.deviceId = m'.deviceId) (h : m.body.disclosure = m'.body.disclosure) :
    serializeClientPose m = serializeClientPose m' := by
  rw [serializeClientPose, serializeClientPose, ← write_disclosure, ← write_disclosure, h,
    hdeviceId]

/-! ### Stealth -/

theorem sanitizePoseFlags_of_stealth {flags : UInt8}
    (h : hasFlag flags PoseFlag.stealth = true) : sanitizePoseFlags flags = PoseFlag.stealth :=
  if_pos h

/-- The disclosure of a stealth client has no parts. -/
theorem disclosure_of_stealth {body : ClientPoseBody D}
    (h : hasFlag body.flags PoseFlag.stealth = true) :
    body.disclosure = ⟨body.poseSeq, PoseFlag.stealth, none, none, none, none, []⟩ := by
  rw [ClientPoseBody.disclosure, sanitizePoseFlags_of_stealth h]
  rfl

/-- **A pose reveals only its valid parts**: messages that agree where the sanitised flags say so
are the same bytes, and a stealth pose is the stealth handshake. -/
theorem pose_reveals_valid_parts :
    (∀ m m' : ClientPoseMessage D, AgreeWhereValid m m' →
      serializeClientPose m = serializeClientPose m') ∧
    ∀ m : ClientPoseMessage D, hasFlag m.body.flags PoseFlag.stealth = true →
      m.body.poseSeq = 0 →
      serializeClientPose m = serializeStealthHandshakePose m.deviceId := by
  constructor
  · intro m m' h
    exact serializeClientPose_of_disclosure_eq h.deviceId h.disclosure_eq
  · intro m hstealth hseq
    have hencoding : computeEncodingFlags PoseFlag.stealth = EncodingFlag.flagsDefault := by decide
    rw [serializeClientPose, ← write_disclosure, disclosure_of_stealth hstealth, hseq]
    simp [serializeStealthHandshakePose, PoseDisclosure.write, writePart, hencoding]

/-- A pose whose only valid part is the delta of the origin, with a hand and a physical pose that
are not valid, beside one that has neither; and a stealth pose with a head. -/
theorem pose_reveals_valid_parts_delta :
    let hidden : PoseTransform ℚ := ⟨⟨1, 2, 3⟩, ⟨0, 1, 0, 0⟩⟩
    let body : ClientPoseBody ℚ :=
      { poseSeq := 0
        flags := PoseFlag.physicalValid ||| PoseFlag.rightValid
        encodingFlags := 0
        xrOriginDeltaPosition := ⟨1, 0, 0⟩
        xrOriginDeltaYaw := 45
        physical := PoseTransform.default
        head := PoseTransform.default
        rightHand := PoseTransform.default
        leftHand := PoseTransform.default
        virtuals := [] }
    let other : ClientPoseBody ℚ :=
      { body with
        flags := PoseFlag.physicalValid
        physical := hidden
        head := hidden
        rightHand := hidden
        virtuals := [hidden] }
    let stealth : ClientPoseBody ℚ :=
      { other with flags := PoseFlag.stealth ||| PoseFlag.headValid ||| PoseFlag.physicalValid }
    serializeClientPose ⟨[97], body⟩ = serializeClientPose ⟨[97], other⟩ ∧
      serializeClientPose ⟨[97], stealth⟩ = serializeStealthHandshakePose [97] := by
  intro hidden body other stealth
  refine ⟨pose_reveals_valid_parts.1 ⟨[97], body⟩ ⟨[97], other⟩ ?_,
    pose_reveals_valid_parts.2 ⟨[97], stealth⟩ (by decide) rfl⟩
  exact ⟨rfl, rfl, by decide, fun h ↦ absurd h (by decide), fun h ↦ absurd h (by decide),
    fun h ↦ absurd h (by decide), fun h ↦ absurd h (by decide), fun _ h ↦ absurd h (by decide),
    fun _ _ ↦ ⟨rfl, rfl⟩⟩

end StylyNetSync
