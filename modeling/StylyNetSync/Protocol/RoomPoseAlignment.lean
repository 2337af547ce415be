import Mathlib.Algebra.Group.Action.Defs
import StylyNetSync.Protocol.PoseBody

/-!
# Room poses from senders that do not conform

A room pose carries the bodies of other clients, and these need not have been written by the
serialiser of this one. `RawPoseRecord` is a record that follows the grammar of a body and nothing
more: any flags byte, any encoding byte that the reader does not refuse, every block present exactly
as the flags gate it, and up to 255 relative transforms behind their count, with or without the flag
for them. The contents of the blocks are arbitrary bytes.

The reader stays aligned on everything but the count: it reads at most fifty of the transforms
(`readPoseBody_consumed`), and the others are left for whatever is read next.
-/

open Scan LittleEndian

namespace StylyNetSync

variable {D : Type}

/-! ### The grammar -/

/-- A client record that follows the grammar of the body. -/
structure RawPoseRecord where
  clientNo : UInt16
  poseTime : UInt64
  poseSeq : UInt16
  flags : UInt8
  encodingFlags : UInt8
  locomotion : Bytes
  head : Bytes
  rightHand : Bytes
  leftHand : Bytes
  virtuals : List Bytes
  length_locomotion : locomotion.length = if hasFlag flags PoseFlag.physicalValid then 8 else 0
  length_head : head.length = if hasFlag flags PoseFlag.headValid then 13 else 0
  length_rightHand : rightHand.length =
    if hasFlag flags PoseFlag.headValid && hasFlag flags PoseFlag.rightValid then 10 else 0
  length_leftHand : leftHand.length =
    if hasFlag flags PoseFlag.headValid && hasFlag flags PoseFlag.leftValid then 10 else 0
  length_virtuals : virtuals.length ≤ 255
  length_virtual : ∀ transform ∈ virtuals, transform.length = 10
  /-- The one combination the reader rejects: a delta without its encoding flag. -/
  accepted : hasFlag flags PoseFlag.physicalValid = true →
    hasFlag flags PoseFlag.movingFloorLocal = true ∨
      hasFlag encodingFlags EncodingFlag.physicalIsXrOriginDelta = true

namespace RawPoseRecord

/-- The bytes of the body, up to and with the given transforms. -/
def bodyWith (r : RawPoseRecord) (transforms : List Bytes) : Bytes :=
  [writeU16 r.poseSeq, writeU8 r.flags, writeU8 r.encodingFlags, r.locomotion, r.head, r.rightHand,
    r.leftHand, writeU8 (UInt8.ofNat r.virtuals.length), transforms.flatten].flatten

def body (r : RawPoseRecord) : Bytes := r.bodyWith r.virtuals

def bytes (r : RawPoseRecord) : Bytes :=
  [writeU16 r.clientNo, writeF64 r.poseTime, r.body].flatten

/-- The reader consumes exactly this record, wherever it stands. -/
def ConsumedExactly (D : Type) [DoubleTrig D] (r : RawPoseRecord) : Prop :=
  ∃ body : ClientPoseBody D, Parses sizeMod readPoseBody r.body body

end RawPoseRecord

/-- A room-pose payload of such records. -/
structure RawRoomPose where
  roomId : Bytes
  broadcastTime : UInt64
  records : List RawPoseRecord
  length_roomId : roomId.length ≤ 255
  length_records : records.length ≤ 65535

def RawRoomPose.payload (m : RawRoomPose) : Bytes :=
  [writeU8 MessageType.roomPose.code,
    writeU8 kProtocolVersion,
    writeU8 (UInt8.ofNat m.roomId.length) ++ m.roomId,
    writeF64 m.broadcastTime,
    writeU16 (UInt16.ofNat m.records.length),
    m.records.flatMap RawPoseRecord.bytes].flatten

/-! ### Blocks of any contents -/

theorem readWord_consumes (n : ℕ) : Consumes sizeMod (readWord n) n := by
  rw [readWord]
  refine Consumes.bind (n := 0) (Consumes.grab n) fun r ↦ ?_
  cases r with
  | none => exact Consumes.pure 0
  | some bytes => exact Consumes.pure (leValue bytes)

theorem readI16_consumes : Consumes sizeMod readI16 2 := ((readWord_consumes 2).map _).map _

theorem readU32_consumes : Consumes sizeMod readU32 4 := (readWord_consumes 4).map _

theorem readI24_consumes : Consumes sizeMod readI24 3 := (readWord_consumes 3).map _

theorem readerOk_consumes : Consumes sizeMod readerOk 0 := by
  intro chunk hchunk
  rw [List.length_eq_zero_iff.mp hchunk]
  exact ⟨true, fun before after _ ↦ rfl⟩

theorem check_pure_consumes {α : Type} (a : α) :
    Consumes sizeMod (Scan.check >>= fun _ ↦ pure a : Read α) 0 :=
  Consumes.check_bind (f := fun _ ↦ pure a) (Consumes.pure a)

theorem readRelative_consumes [Double D] (headPos : Vec3 D) (headRot : Quat D) :
    Consumes sizeMod (readRelative headPos headRot) 10 :=
  readI16_consumes.bind fun _ ↦ readI16_consumes.bind fun _ ↦ readI16_consumes.bind fun _ ↦
    readU32_consumes.bind fun _ ↦ readerOk_consumes.bind fun _ ↦ Consumes.pure _

theorem readLocomotion_consumes {flags encodingFlags : UInt8}
    (h : hasFlag flags PoseFlag.physicalValid = true →
      hasFlag flags PoseFlag.movingFloorLocal = true ∨
        hasFlag encodingFlags EncodingFlag.physicalIsXrOriginDelta = true) :
    Consumes sizeMod (readLocomotion flags encodingFlags)
      (if hasFlag flags PoseFlag.physicalValid then 8 else 0) := by
  rw [readLocomotion]
  by_cases hphysical : hasFlag flags PoseFlag.physicalValid = true
  · rw [if_pos hphysical, if_pos hphysical]
    have haccepted : ¬(!hasFlag flags PoseFlag.movingFloorLocal &&
        !hasFlag encodingFlags EncodingFlag.physicalIsXrOriginDelta) = true := by
      rcases h hphysical with hfloor | hdelta
      · simp [hfloor]
      · simp [hdelta]
    rw [if_neg haccepted]
    exact readI16_consumes.bind fun _ ↦ readI16_consumes.bind fun _ ↦
      readI16_consumes.bind fun _ ↦ readI16_consumes.bind fun _ ↦ Consumes.pure _
  · rw [if_neg hphysical, if_neg hphysical]
    exact Consumes.pure _

theorem readHead_consumes [Double D] (flags : UInt8) :
    Consumes sizeMod (readHead flags : Read (PoseTransform D))
      (if hasFlag flags PoseFlag.headValid then 13 else 0) := by
  rw [readHead]
  by_cases hhead : hasFlag flags PoseFlag.headValid = true
  · rw [if_pos hhead, if_pos hhead]
    exact readI24_consumes.bind fun _ ↦ readI24_consumes.bind fun _ ↦
      readI24_consumes.bind fun _ ↦ readU32_consumes.bind fun _ ↦ check_pure_consumes _
  · rw [if_neg hhead, if_neg hhead]
    exact Consumes.pure _

theorem readHand_consumes [Double D] (valid : Bool) (head : PoseTransform D) :
    Consumes sizeMod (readHand valid head) (if valid then 10 else 0) := by
  cases valid with
  | false => exact Consumes.pure _
  | true => exact readRelative_consumes head.position head.rotation

theorem readVirtual_consumes [Double D] (head : PoseTransform D) :
    Consumes sizeMod (readVirtual head) 10 :=
  (readRelative_consumes head.position head.rotation).bind fun _ ↦ check_pure_consumes _

/-- Behind a count byte at most fifty transforms are read, whatever the flags say of them. -/
theorem readVirtuals_parses_some [Double D] (flags count : UInt8) (head : PoseTransform D)
    {chunk : Bytes} (hchunk : chunk.length = min count.toNat kMaxVirtualTransforms * 10) :
    ∃ virtuals, Parses sizeMod (readVirtuals flags head) [writeU8 count, chunk].flatten
      virtuals := by
  obtain ⟨entries, hentries⟩ := (readVirtual_consumes head).repeatN
    (min count.toNat kMaxVirtualTransforms) chunk hchunk
  exact ⟨_, (readU8_parses count).cons <| Parses.check_bind <| hentries.cons <| Parses.pure _⟩

/-! ### A record -/

namespace RawPoseRecord

theorem toNat_count (r : RawPoseRecord) :
    (UInt8.ofNat r.virtuals.length).toNat = r.virtuals.length := by
  have h := r.length_virtuals
  rw [UInt8.toNat_ofNat', Nat.mod_eq_of_lt (by omega)]

theorem length_flatten_transforms {transforms : List Bytes}
    (h : ∀ transform ∈ transforms, transform.length = 10) :
    transforms.flatten.length = transforms.length * 10 := by
  rw [List.length_flatten, List.map_congr_left h, List.map_const', List.sum_replicate,
    smul_eq_mul]

theorem body_eq (r : RawPoseRecord) :
    r.body = r.bodyWith (r.virtuals.take kMaxVirtualTransforms) ++
      (r.virtuals.drop kMaxVirtualTransforms).flatten := by
  have h := congrArg List.flatten (List.take_append_drop kMaxVirtualTransforms r.virtuals)
  rw [List.flatten_append] at h
  simp only [body, bodyWith, List.flatten_cons, List.flatten_nil, List.append_assoc,
    List.append_nil]
  rw [h]

/-- **What the reader takes of a record**: everything up to the fiftieth transform. -/
theorem readPoseBody_consumed [DoubleTrig D] (r : RawPoseRecord) :
    ∃ body : ClientPoseBody D, body.poseSeq = r.poseSeq ∧
      Parses sizeMod readPoseBody (r.bodyWith (r.virtuals.take kMaxVirtualTransforms)) body := by
  obtain ⟨words, hwords⟩ := readLocomotion_consumes r.accepted r.locomotion r.length_locomotion
  obtain ⟨head, hhead⟩ := readHead_consumes (D := D) r.flags r.head r.length_head
  obtain ⟨rightHand, hright⟩ := readHand_consumes _ head r.rightHand r.length_rightHand
  obtain ⟨leftHand, hleft⟩ := readHand_consumes _ head r.leftHand r.length_leftHand
  have htransforms : (r.virtuals.take kMaxVirtualTransforms).flatten.length =
      min (UInt8.ofNat r.virtuals.length).toNat kMaxVirtualTransforms * 10 := by
    rw [length_flatten_transforms fun transform h ↦
      r.length_virtual transform (List.mem_of_mem_take h), List.length_take, toNat_count,
      Nat.min_comm]
  obtain ⟨virtuals, hvirtuals⟩ := readVirtuals_parses_some r.flags _ head htransforms
  refine ⟨_, ?_, (readU16_parses r.poseSeq).cons <| (readU8_parses r.flags).cons <|
    (readU8_parses r.encodingFlags).cons <| Parses.check_bind <| hwords.cons <| hhead.cons <|
      hright.cons <| hleft.cons <| hvirtuals.bind_nil (check_pure_parses _)⟩
  rfl

theorem length_bytes_le (r : RawPoseRecord) : r.bytes.length ≤ 2606 := by
  have hlocomotion := r.length_locomotion
  have hhead := r.length_head
  have hright := r.length_rightHand
  have hleft := r.length_leftHand
  have htransforms := length_flatten_transforms r.length_virtual
  have hvirtuals := r.length_virtuals
  simp only [bytes, body, bodyWith, length_flatten_cons, List.flatten_nil, List.length_nil,
    length_writeU16, length_writeU8, length_writeF64]
  split_ifs at hlocomotion hhead hright hleft <;> omega

/-- A record is consumed exactly when its transforms are no more than the reader reads. -/
theorem consumedExactly_iff [DoubleTrig D] (r : RawPoseRecord) :
    r.ConsumedExactly D ↔ r.virtuals.length ≤ kMaxVirtualTransforms := by
  obtain ⟨read, -, hread⟩ := readPoseBody_consumed (D := D) r
  constructor
  · rintro ⟨body, hbody⟩
    have hlen := r.length_bytes_le
    simp only [bytes, length_flatten_cons] at hlen
    rw [r.body_eq] at hbody hlen
    have hrest := hread.length_eq hbody (by simp only [sizeMod]; omega)
    -- nothing is left over, so no transform was
    have hcount := congrArg List.length hrest
    rw [length_flatten_transforms fun transform h ↦
      r.length_virtual transform (List.mem_of_mem_drop h), List.length_drop,
      List.length_nil] at hcount
    omega
  · intro h
    rw [ConsumedExactly, r.body_eq, List.drop_eq_nil_of_le h, List.flatten_nil, List.append_nil]
    exact ⟨read, hread⟩

end RawPoseRecord

/-! ### The whole payload -/

/-- What identifies a pose: the client, the server's time and the sequence number. -/
def RoomPoseClient.stamp (c : RoomPoseClient D) : UInt16 × UInt64 × UInt16 :=
  (c.clientNo, c.poseTime, c.body.poseSeq)

def RawPoseRecord.stamp (r : RawPoseRecord) : UInt16 × UInt64 × UInt16 :=
  (r.clientNo, r.poseTime, r.poseSeq)

theorem readRoomPoseClient_consumed [DoubleTrig D] (r : RawPoseRecord) :
    ∃ client : RoomPoseClient D, client.stamp = r.stamp ∧
      (r.virtuals.length ≤ kMaxVirtualTransforms →
        Parses sizeMod readRoomPoseClient r.bytes client) := by
  obtain ⟨body, hseq, hbody⟩ := r.readPoseBody_consumed (D := D)
  refine ⟨⟨r.clientNo, r.poseTime, body⟩, ?_, fun h ↦ ?_⟩
  · rw [RoomPoseClient.stamp, RawPoseRecord.stamp, hseq]
  · rw [List.take_of_length_le h] at hbody
    exact (readU16_parses _).cons <| (readF64_parses _).cons <| Parses.check_bind <|
      hbody.cons <| Parses.pure _

/-- The reader accepts the payload, stops at its end and returns every client under its own
number, time and sequence number. -/
def RawRoomPose.ReadInFull (D : Type) [DoubleTrig D] (m : RawRoomPose) : Prop :=
  ∃ message : RoomPoseMessage D,
    deserializeRoomPose.run m.payload = (some message, ⟨m.payload, m.payload.length, true⟩) ∧
    message.clients.map RoomPoseClient.stamp = m.records.map RawPoseRecord.stamp

theorem readRoomPose_in_full [DoubleTrig D] (m : RawRoomPose)
    (h : ∀ r ∈ m.records, r.virtuals.length ≤ kMaxVirtualTransforms) : m.ReadInFull D := by
  choose client hstamp hparses using readRoomPoseClient_consumed (D := D)
  have hroom : writeU8 (UInt8.ofNat m.roomId.length) ++ m.roomId = writeString8 m.roomId := by
    rw [writeString8, truncateUtf8Bytes_of_le m.length_roomId]
    rfl
  have hparse : Parses sizeMod deserializeRoomPose m.payload
      ⟨truncateUtf8Bytes m.roomId 255, m.broadcastTime, m.records.map client⟩ := by
    rw [RawRoomPose.payload, hroom]
    exact beginMessage_versioned <| (readString8_parses _).cons <| (readF64_parses _).cons <|
      counted_parses m.length_records (fun r hr ↦ hparses r (h r hr)) (check_pure_parses _)
  refine ⟨_, hparse.run ?_, ?_⟩
  · have hlist := length_flatMap_le RawPoseRecord.bytes m.records fun r _ ↦ r.length_bytes_le
    have hid := m.length_roomId
    have hcount := m.length_records
    simp only [RawRoomPose.payload, length_flatten_cons, List.flatten_nil, List.length_nil,
      List.length_append, length_writeU8, length_writeU16, length_writeF64, sizeMod]
    omega
  · rw [List.map_map]
    exact List.map_congr_left fun r _ ↦ hstamp r

/-- **Where the reader stays aligned.** A payload that follows the grammar is read record by record,
and every client comes back under its own stamp, exactly when no record carries more than fifty
transforms. Flags, encoding and contents play no part, nor does the place of the record. -/
theorem roomPose_aligned_iff [DoubleTrig D] (m : RawRoomPose) :
    (∀ r ∈ m.records, r.ConsumedExactly D) ∧ m.ReadInFull D ↔
      ∀ r ∈ m.records, r.virtuals.length ≤ 50 := by
  constructor
  · rintro ⟨hrecords, -⟩ r hr
    exact r.consumedExactly_iff.mp (hrecords r hr)
  · intro h
    exact ⟨fun r hr ↦ r.consumedExactly_iff.mpr (h r hr), readRoomPose_in_full m h⟩

/-- A record without blocks, whose transforms are all zero bytes. -/
def bareRecord (clientNo poseSeq : UInt16) (count : ℕ) (h : count ≤ 255) : RawPoseRecord where
  clientNo := clientNo
  poseTime := 0
  poseSeq := poseSeq
  flags := 0
  encodingFlags := 0
  locomotion := []
  head := []
  rightHand := []
  leftHand := []
  virtuals := List.replicate count (List.replicate 10 0)
  length_locomotion := by decide
  length_head := by decide
  length_rightHand := by decide
  length_leftHand := by decide
  length_virtuals := by rwa [List.length_replicate]
  length_virtual := fun transform htransform ↦ by
    rw [List.eq_of_mem_replicate htransform, List.length_replicate]
  accepted := by decide

/-- Client 1 announces one transform too many, client 7 stands behind it. -/
def crowdedRoom : RawRoomPose where
  roomId := [114]
  broadcastTime := 0
  records := [bareRecord 1 2 51 (by decide), bareRecord 7 3 0 (by decide)]
  length_roomId := by decide
  length_records := by decide

/-- The fifty-first transform is taken for the number and time of the next client, whose own number
becomes a sequence number. -/
theorem crowded_room_desynchronised :
    crowdedRoom.records.map RawPoseRecord.stamp = [(1, 0, 2), (7, 0, 3)] ∧
    (deserializeRoomPose.run crowdedRoom.payload).1.map
        (fun message : RoomPoseMessage ℚ ↦ message.clients.map RoomPoseClient.stamp) =
      some [(1, 0, 2), (0, 0, 7)] ∧
    ¬crowdedRoom.ReadInFull ℚ := by
  have hsent : crowdedRoom.records.map RawPoseRecord.stamp = [(1, 0, 2), (7, 0, 3)] := by decide
  have hread : (deserializeRoomPose.run crowdedRoom.payload).1.map
      (fun message : RoomPoseMessage ℚ ↦ message.clients.map RoomPoseClient.stamp) =
      some [(1, 0, 2), (0, 0, 7)] := by decide +kernel
  refine ⟨hsent, hread, ?_⟩
  rintro ⟨message, hrun, hstamps⟩
  rw [hrun, Option.map_some, hstamps, hsent] at hread
  exact absurd hread (by decide)

end StylyNetSync
