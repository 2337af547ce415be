import StylyNetSync.Protocol.Deserialize

/-!
# Decoding undoes encoding

For each message outside the avatar lane, the deserialiser applied to the serialiser's output
returns the message with its lossy fields replaced by what was put on the wire: strings by their
truncation, positions by the 24-bit words they were quantised to, rotations by the packed word. All
bytes are consumed.

The proofs follow the layout of the messages: one `Parses` lemma per record, each a walk along the
fields in wire order, and a bound on the length of every record so that a whole message stays
addressable.
-/

open Scan

namespace StylyNetSync

variable {D : Type}

/-- The deserialiser accepts the bytes as `a` and consumes all of them. -/
def RoundTrips {α : Type} (deserialize : Read α) (bytes : Bytes) (a : α) : Prop :=
  deserialize.run bytes = (some a, ⟨bytes, bytes.length, true⟩)

/-! ### What the wire keeps of a field -/

/-- A length-prefixed string of at most 255 bytes. -/
def wireString8 (value : Bytes) : Bytes := truncateUtf8Bytes value 255

/-- A string arrives unchanged exactly if it fits the length byte. -/
theorem wireString8_eq_self_iff {value : Bytes} : wireString8 value = value ↔ value.length ≤ 255 :=
  truncateUtf8Bytes_eq_self_iff

/-- A length-prefixed string of at most 65535 bytes. -/
def wireString16 (value : Bytes) : Bytes := truncateUtf8Bytes value 65535

/-- A variable name: 64 code points, then 255 bytes. -/
def wireName (name : Bytes) : Bytes := wireString8 (truncateUtf8CodePoints name 64)

/-- A variable value: 1024 code points, then 65535 bytes. -/
def wireValue (value : Bytes) : Bytes := wireString16 (truncateUtf8CodePoints value 1024)

/-- A position as the three 24-bit words that were written. -/
def wirePosition [Double D] (p : Vec3 D) : Vec3 D :=
  ⟨dequantizeSigned (clampInt24 (quantizeSignedInt24 p.x kAbsPosScale)) kAbsPosScale,
    dequantizeSigned (clampInt24 (quantizeSignedInt24 p.y kAbsPosScale)) kAbsPosScale,
    dequantizeSigned (clampInt24 (quantizeSignedInt24 p.z kAbsPosScale)) kAbsPosScale⟩

/-- A rotation as the packed word that was written. -/
def wireRotation [Double D] (q : Quat D) : Quat D :=
  decompressQuaternionSmallestThree (compressQuaternionSmallestThree q)

def RpcMessage.onWire (m : RpcMessage) : RpcMessage :=
  { m with
    deviceId := wireString8 m.deviceId
    targetClientNos := m.targetClientNos.take 255
    functionName := wireString8 m.functionName
    argumentsJson := wireString16 m.argumentsJson }

def DeviceIdMappingEntry.onWire (e : DeviceIdMappingEntry) : DeviceIdMappingEntry :=
  { e with deviceId := wireString8 e.deviceId }

def DeviceIdMappingMessage.onWire (m : DeviceIdMappingMessage) : DeviceIdMappingMessage :=
  { m with mappings := m.mappings.map DeviceIdMappingEntry.onWire }

def GlobalVarSetMessage.onWire (m : GlobalVarSetMessage) : GlobalVarSetMessage :=
  { m with
    deviceId := wireString8 m.deviceId
    variableName := wireName m.variableName
    variableValue := wireValue m.variableValue }

def ClientVarSetMessage.onWire (m : ClientVarSetMessage) : ClientVarSetMessage :=
  { m with
    deviceId := wireString8 m.deviceId
    variableName := wireName m.variableName
    variableValue := wireValue m.variableValue }

def ClientVarClearMessage.onWire (m : ClientVarClearMessage) : ClientVarClearMessage :=
  { m with deviceId := wireString8 m.deviceId }

def NetworkVariableEntry.onWire (e : NetworkVariableEntry) : NetworkVariableEntry :=
  { e with name := wireName e.name, value := wireValue e.value }

def GlobalVarSyncMessage.onWire (m : GlobalVarSyncMessage) : GlobalVarSyncMessage :=
  { vars := m.vars.map NetworkVariableEntry.onWire }

def ClientVarSyncMessage.onWire (m : ClientVarSyncMessage) : ClientVarSyncMessage :=
  { clients := m.clients.map fun c ↦ (c.1, c.2.map NetworkVariableEntry.onWire) }

def ObjectPoseMessage.onWire [Double D] (m : ObjectPoseMessage D) : ObjectPoseMessage D :=
  { m with
    deviceId := wireString8 m.deviceId
    position := wirePosition m.position
    rotation := wireRotation m.rotation }

def RoomObjectState.onWire [Double D] (o : RoomObjectState D) : RoomObjectState D :=
  { o with position := wirePosition o.position, rotation := wireRotation o.rotation }

def RoomObjectsMessage.onWire [Double D] (m : RoomObjectsMessage D) : RoomObjectsMessage D :=
  { m with objects := m.objects.map RoomObjectState.onWire }

def ObjectOwnershipRequestMessage.onWire (m : ObjectOwnershipRequestMessage) :
    ObjectOwnershipRequestMessage :=
  { m with deviceId := wireString8 m.deviceId }

/-! ### Message heads and counts -/

/-- A versioned message head: the type byte and the version byte. -/
theorem beginMessage_versioned {α : Type} {type : UInt8} {f : Unit → Read α}
    {fields : List Bytes} {a : α} (h : Parses sizeMod (f ()) fields.flatten a) :
    Parses sizeMod (beginMessage type true >>= f)
      (writeU8 type :: writeU8 kProtocolVersion :: fields).flatten a := by
  have hhead : Parses sizeMod (beginMessage type true)
      (writeU8 type ++ (writeU8 kProtocolVersion ++ [])) () := by
    refine (readU8_parses type).bind ?_
    rw [if_neg (by simp), if_pos rfl]
    refine (readU8_parses kProtocolVersion).bind ?_
    rw [if_neg (by simp)]
    intro before after _
    simp [Scan.check]
  have := hhead.bind h
  simpa [List.append_assoc] using this

/-- A message head without a version byte. -/
theorem beginMessage_plain {α : Type} {type : UInt8} {f : Unit → Read α}
    {fields : List Bytes} {a : α} (h : Parses sizeMod (f ()) fields.flatten a) :
    Parses sizeMod (beginMessage type false >>= f) (writeU8 type :: fields).flatten a := by
  have hhead : Parses sizeMod (beginMessage type false) (writeU8 type ++ []) () := by
    refine (readU8_parses type).bind ?_
    rw [if_neg (by simp), if_neg (by simp)]
    intro before after _
    simp [Scan.check]
  have := hhead.bind h
  simpa [List.append_assoc] using this

/-- The end of every deserialiser: the flag is consulted and the message returned. -/
theorem check_pure_parses {α : Type} (a : α) :
    Parses sizeMod (Scan.check >>= fun _ ↦ pure a : Read α) ([] : List Bytes).flatten a :=
  Parses.check_bind (Parses.pure a)

theorem toNat_ofNat_count {n : ℕ} (h : n ≤ 65535) : (UInt16.ofNat n).toNat = n := by
  rw [UInt16.toNat_ofNat', Nat.mod_eq_of_lt (by omega)]

/-- A counted list behind its 16-bit count, followed by further fields. -/
theorem counted_parses {α β δ : Type} {p : Read β} {encode : δ → Bytes} {value : δ → β}
    {xs : List δ} {f : List β → Read α} {fields : List Bytes} {a : α} (hlen : xs.length ≤ 65535)
    (hp : ∀ x ∈ xs, Parses sizeMod p (encode x) (value x))
    (hf : Parses sizeMod (f (xs.map value)) fields.flatten a) :
    Parses sizeMod
      (readU16 >>= fun count ↦ Scan.check >>= fun _ ↦ repeatN count.toNat p >>= f)
      (writeU16 (UInt16.ofNat xs.length) :: xs.flatMap encode :: fields).flatten a := by
  refine (readU16_parses _).cons (Parses.check_bind ?_)
  rw [toNat_ofNat_count hlen]
  exact (Parses.repeatN hp).cons hf

/-! ### Records -/

theorem readObjectTransform_parses [Double D] {α : Type} (position : Vec3 D) (rotation : Quat D)
    {f : ℤ → ℤ → ℤ → UInt32 → Read α} {a : α}
    (h : Parses sizeMod (f (clampInt24 (quantizeSignedInt24 position.x kAbsPosScale))
      (clampInt24 (quantizeSignedInt24 position.y kAbsPosScale))
      (clampInt24 (quantizeSignedInt24 position.z kAbsPosScale))
      (compressQuaternionSmallestThree rotation)) ([] : List Bytes).flatten a) :
    Parses sizeMod
      (readI24 >>= fun px ↦ readI24 >>= fun py ↦ readI24 >>= fun pz ↦ readU32 >>= f px py pz)
      [writeObjectTransform position rotation].flatten a := by
  have := (readI24_parses (quantizeSignedInt24 position.x kAbsPosScale)).cons
    (f := fun px ↦ readI24 >>= fun py ↦ readI24 >>= fun pz ↦ readU32 >>= f px py pz)
    ((readI24_parses _).cons ((readI24_parses _).cons ((readU32_parses _).cons h)))
  rwa [List.flatten_cons, List.flatten_nil, List.append_nil]

theorem readVariableEntry_parses (entry : NetworkVariableEntry) :
    Parses sizeMod readVariableEntry (writeVariableEntry entry) entry.onWire :=
  (readString8_parses _).cons <| (readString16_parses _).cons <| (readU16_parses _).cons <|
    check_pure_parses _

theorem readDeviceIdMappingEntry_parses (entry : DeviceIdMappingEntry) :
    Parses sizeMod readDeviceIdMappingEntry (writeDeviceIdMappingEntry entry) entry.onWire := by
  have hflag : ((if entry.isStealth then (0x01 : UInt8) else 0x00) == 0x01) = entry.isStealth := by
    cases entry.isStealth <;> rfl
  refine (readU16_parses _).cons <| (readU8_parses _).cons <| (readString8_parses _).cons ?_
  rw [hflag]
  exact check_pure_parses _

theorem readClientBlock_parses (client : UInt16 × List NetworkVariableEntry)
    (h : client.2.length ≤ 65535) :
    Parses sizeMod readClientBlock (writeClientBlock client)
      (client.1, client.2.map NetworkVariableEntry.onWire) :=
  (readU16_parses _).cons <|
    counted_parses h (fun entry _ ↦ readVariableEntry_parses entry) (Parses.pure _)

theorem readRoomObject_parses [Double D] (object : RoomObjectState D) :
    Parses sizeMod readRoomObject (writeRoomObject object) object.onWire :=
  (readU32_parses _).cons <| (readU16_parses _).cons <| (readU16_parses _).cons <|
    (readF64_parses _).cons <| readObjectTransform_parses _ _ <| check_pure_parses _

/-! ### Lengths -/

@[simp] theorem length_writeObjectTransform [Double D] (position : Vec3 D) (rotation : Quat D) :
    (writeObjectTransform position rotation).length = 13 := by
  simp [writeObjectTransform]

theorem length_writeVariableEntry_le (entry : NetworkVariableEntry) :
    (writeVariableEntry entry).length ≤ 65795 := by
  have h8 := length_writeString8_le (clampVariableName entry.name)
  have h16 := length_writeString16_le (clampVariableValue entry.value)
  simp [writeVariableEntry]
  omega

theorem length_writeDeviceIdMappingEntry_le (entry : DeviceIdMappingEntry) :
    (writeDeviceIdMappingEntry entry).length ≤ 259 := by
  have h8 := length_writeString8_le entry.deviceId
  simp [writeDeviceIdMappingEntry]
  omega

theorem length_writeClientBlock_le {client : UInt16 × List NetworkVariableEntry}
    (h : client.2.length ≤ 65535) : (writeClientBlock client).length ≤ 4311875329 := by
  have hentries := length_flatMap_le writeVariableEntry client.2 fun entry _ ↦
    length_writeVariableEntry_le entry
  simp only [writeClientBlock, length_flatten_cons, List.flatten_nil, List.length_nil,
    length_writeU16]
  omega

@[simp] theorem length_writeRoomObject [Double D] (object : RoomObjectState D) :
    (writeRoomObject object).length = 29 := by
  simp [writeRoomObject]

/-! ### Messages -/

theorem clientHello_roundTrips (deviceId : Bytes) (isStealth : Bool) :
    RoundTrips deserializeClientHello (serializeClientHello deviceId isStealth)
      { deviceId := wireString8 deviceId
        flags := if isStealth then kClientHelloFlagStealth else 0 } := by
  refine Parses.run (M := sizeMod) (beginMessage_versioned <| (readU8_parses _).cons <|
    (readString8_parses _).cons <| check_pure_parses _) ?_
  have h8 := length_writeString8_le deviceId
  simp [serializeClientHello, sizeMod]
  omega

theorem rpc_roundTrips (m : RpcMessage) :
    RoundTrips deserializeRpc (serializeRpc m) m.onWire := by
  have htake : m.targetClientNos.take (min m.targetClientNos.length 255) =
      m.targetClientNos.take 255 := by
    rw [Nat.min_comm, ← List.take_take, List.take_length]
  have hcount : (UInt8.ofNat (min m.targetClientNos.length 255)).toNat =
      (m.targetClientNos.take 255).length := by
    rw [UInt8.toNat_ofNat', List.length_take, Nat.mod_eq_of_lt (by omega), Nat.min_comm]
  have htargets : Parses sizeMod (repeatN (m.targetClientNos.take 255).length readU16)
      ((m.targetClientNos.take 255).flatMap writeU16) ((m.targetClientNos.take 255).map id) :=
    Parses.repeatN fun target _ ↦ readU16_parses target
  rw [List.map_id] at htargets
  -- a list of targets that is too long is cut to what the count byte can say
  refine Parses.run (M := sizeMod) (beginMessage_plain <| (readU16_parses _).cons <|
    (readString8_parses _).cons <| (readU8_parses _).cons <| Parses.check_bind ?_) ?_
  · rw [hcount, htake]
    exact htargets.cons <| (readString8_parses _).cons <| (readString16_parses _).cons <|
      check_pure_parses _
  · have h8 := length_writeString8_le m.deviceId
    have h8' := length_writeString8_le m.functionName
    have h16 := length_writeString16_le m.argumentsJson
    have hlist := length_flatMap_le writeU16
      (m.targetClientNos.take (min m.targetClientNos.length 255))
      fun target _ ↦ (length_writeU16 target).le
    simp only [List.length_take] at hlist
    simp only [serializeRpc, length_flatten_cons, List.flatten_nil, List.length_nil,
      length_writeU8, length_writeU16, sizeMod]
    omega

theorem deviceIdMapping_roundTrips (m : DeviceIdMappingMessage) (h : m.mappings.length ≤ 65535) :
    RoundTrips deserializeDeviceIdMapping (serializeDeviceIdMapping m) m.onWire := by
  refine Parses.run (M := sizeMod) (beginMessage_plain <| (readU8_parses _).cons <|
    (readU8_parses _).cons <| (readU8_parses _).cons <|
      counted_parses h (fun entry _ ↦ readDeviceIdMappingEntry_parses entry)
        (check_pure_parses _)) ?_
  have hlist := length_flatMap_le writeDeviceIdMappingEntry m.mappings fun entry _ ↦
    length_writeDeviceIdMappingEntry_le entry
  simp only [serializeDeviceIdMapping, length_flatten_cons, List.flatten_nil, List.length_nil,
    length_writeU8, length_writeU16, sizeMod]
  omega

theorem globalVarSet_roundTrips (m : GlobalVarSetMessage) :
    RoundTrips deserializeGlobalVarSet (serializeGlobalVarSet m) m.onWire := by
  refine Parses.run (M := sizeMod) (beginMessage_plain <| (readU16_parses _).cons <|
    (readString8_parses _).cons <| (readString8_parses _).cons <|
      (readString16_parses _).cons <| check_pure_parses _) ?_
  have hdevice := length_writeString8_le m.deviceId
  have hname := length_writeString8_le (clampVariableName m.variableName)
  have hvalue := length_writeString16_le (clampVariableValue m.variableValue)
  simp only [serializeGlobalVarSet, length_flatten_cons, List.flatten_nil, List.length_nil,
    length_writeU8, length_writeU16, sizeMod]
  omega

theorem globalVarSync_roundTrips (m : GlobalVarSyncMessage) (h : m.vars.length ≤ 65535) :
    RoundTrips deserializeGlobalVarSync (serializeGlobalVarSync m) m.onWire := by
  refine Parses.run (M := sizeMod) (beginMessage_plain <|
    counted_parses h (fun entry _ ↦ readVariableEntry_parses entry) (check_pure_parses _)) ?_
  have hlist := length_flatMap_le writeVariableEntry m.vars fun entry _ ↦
    length_writeVariableEntry_le entry
  simp only [serializeGlobalVarSync, length_flatten_cons, List.flatten_nil, List.length_nil,
    length_writeU8, length_writeU16, sizeMod]
  omega

theorem clientVarSet_roundTrips (m : ClientVarSetMessage) :
    RoundTrips deserializeClientVarSet (serializeClientVarSet m) m.onWire := by
  refine Parses.run (M := sizeMod) (beginMessage_plain <| (readU16_parses _).cons <|
    (readString8_parses _).cons <| (readU16_parses _).cons <| (readString8_parses _).cons <|
      (readString16_parses _).cons <| check_pure_parses _) ?_
  have hdevice := length_writeString8_le m.deviceId
  have hname := length_writeString8_le (clampVariableName m.variableName)
  have hvalue := length_writeString16_le (clampVariableValue m.variableValue)
  simp only [serializeClientVarSet, length_flatten_cons, List.flatten_nil, List.length_nil,
    length_writeU8, length_writeU16, sizeMod]
  omega

theorem clientVarSync_roundTrips (m : ClientVarSyncMessage) (h : m.clients.length ≤ 65535)
    (hblocks : ∀ client ∈ m.clients, client.2.length ≤ 65535) :
    RoundTrips deserializeClientVarSync (serializeClientVarSync m) m.onWire := by
  refine Parses.run (M := sizeMod) (beginMessage_plain <|
    counted_parses h (fun client hc ↦ readClientBlock_parses client (hblocks client hc))
      (check_pure_parses _)) ?_
  have hlist := length_flatMap_le writeClientBlock m.clients fun client hc ↦
    length_writeClientBlock_le (hblocks client hc)
  simp only [serializeClientVarSync, length_flatten_cons, List.flatten_nil, List.length_nil,
    length_writeU8, length_writeU16, sizeMod]
  omega

theorem clientVarClear_roundTrips (m : ClientVarClearMessage) :
    RoundTrips deserializeClientVarClear (serializeClientVarClear m) m.onWire := by
  refine Parses.run (M := sizeMod) (beginMessage_plain <| (readU16_parses _).cons <|
    (readString8_parses _).cons <| check_pure_parses _) ?_
  have hdevice := length_writeString8_le m.deviceId
  simp only [serializeClientVarClear, length_flatten_cons, List.flatten_nil, List.length_nil,
    length_writeU8, length_writeU16, sizeMod]
  omega

theorem objectPose_roundTrips [Double D] (m : ObjectPoseMessage D) :
    RoundTrips deserializeObjectPose (serializeObjectPose m) m.onWire := by
  refine Parses.run (M := sizeMod) (beginMessage_versioned <| (readString8_parses _).cons <|
    (readU32_parses _).cons <| (readU16_parses _).cons <|
      readObjectTransform_parses _ _ <| check_pure_parses _) ?_
  have hdevice := length_writeString8_le m.deviceId
  simp only [serializeObjectPose, length_flatten_cons, List.flatten_nil, List.length_nil,
    length_writeU8, length_writeU16, length_writeU32, length_writeObjectTransform, sizeMod]
  omega

theorem roomObjects_roundTrips [Double D] (m : RoomObjectsMessage D)
    (h : m.objects.length ≤ 65535) :
    RoundTrips deserializeRoomObjects (serializeRoomObjects m) m.onWire := by
  refine Parses.run (M := sizeMod) (beginMessage_versioned <| (readF64_parses _).cons <|
    counted_parses h (fun object _ ↦ readRoomObject_parses object) (check_pure_parses _)) ?_
  have hlist := length_flatMap_le writeRoomObject m.objects fun object _ ↦
    (length_writeRoomObject object).le
  simp only [serializeRoomObjects, length_flatten_cons, List.flatten_nil, List.length_nil,
    length_writeU8, length_writeU16, length_writeF64, sizeMod]
  omega

theorem objectOwnershipRequest_roundTrips (m : ObjectOwnershipRequestMessage) :
    RoundTrips deserializeObjectOwnershipRequest (serializeObjectOwnershipRequest m) m.onWire := by
  refine Parses.run (M := sizeMod) (beginMessage_versioned <| (readString8_parses _).cons <|
    (readU8_parses _).cons <| (readU32_parses _).cons <| check_pure_parses _) ?_
  have hdevice := length_writeString8_le m.deviceId
  simp only [serializeObjectOwnershipRequest, length_flatten_cons, List.flatten_nil,
    List.length_nil, length_writeU8, length_writeU32, sizeMod]
  omega

theorem objectOwnershipChanged_roundTrips (m : ObjectOwnershipChangedMessage) :
    RoundTrips deserializeObjectOwnershipChanged (serializeObjectOwnershipChanged m) m := by
  refine Parses.run (M := sizeMod) (beginMessage_plain <| (readU32_parses _).cons <|
    (readU16_parses _).cons <| (readU16_parses _).cons <| check_pure_parses _) ?_
  simp [serializeObjectOwnershipChanged, sizeMod]

theorem objectOwnershipRejected_roundTrips (m : ObjectOwnershipRejectedMessage) :
    RoundTrips deserializeObjectOwnershipRejected (serializeObjectOwnershipRejected m) m := by
  refine Parses.run (M := sizeMod) (beginMessage_plain <| (readU32_parses _).cons <|
    (readU16_parses _).cons <| (readU8_parses _).cons <| check_pure_parses _) ?_
  simp [serializeObjectOwnershipRejected, sizeMod]

/-- **Decode undoes encode** for every message outside the avatar lane: accepted, consumed to the
last byte, and the message that was sent up to what its fields keep on the wire. Lists are as long
as their 16-bit count can say; nothing is asked of any string, time, position or rotation. -/
theorem messages_roundTrip [Double D] :
    (∀ deviceId isStealth,
      RoundTrips deserializeClientHello (serializeClientHello deviceId isStealth)
        { deviceId := wireString8 deviceId
          flags := if isStealth then kClientHelloFlagStealth else 0 }) ∧
    (∀ m, RoundTrips deserializeRpc (serializeRpc m) m.onWire) ∧
    (∀ m : DeviceIdMappingMessage, m.mappings.length ≤ 65535 →
      RoundTrips deserializeDeviceIdMapping (serializeDeviceIdMapping m) m.onWire) ∧
    (∀ m, RoundTrips deserializeGlobalVarSet (serializeGlobalVarSet m) m.onWire) ∧
    (∀ m : GlobalVarSyncMessage, m.vars.length ≤ 65535 →
      RoundTrips deserializeGlobalVarSync (serializeGlobalVarSync m) m.onWire) ∧
    (∀ m, RoundTrips deserializeClientVarSet (serializeClientVarSet m) m.onWire) ∧
    (∀ m : ClientVarSyncMessage, m.clients.length ≤ 65535 →
      (∀ client ∈ m.clients, client.2.length ≤ 65535) →
      RoundTrips deserializeClientVarSync (serializeClientVarSync m) m.onWire) ∧
    (∀ m, RoundTrips deserializeClientVarClear (serializeClientVarClear m) m.onWire) ∧
    (∀ m, RoundTrips deserializeObjectOwnershipRequest (serializeObjectOwnershipRequest m)
      m.onWire) ∧
    (∀ m, RoundTrips deserializeObjectOwnershipChanged (serializeObjectOwnershipChanged m) m) ∧
    (∀ m, RoundTrips deserializeObjectOwnershipRejected (serializeObjectOwnershipRejected m) m) ∧
    (∀ m : ObjectPoseMessage D,
      RoundTrips deserializeObjectPose (serializeObjectPose m) m.onWire) ∧
    (∀ m : RoomObjectsMessage D, m.objects.length ≤ 65535 →
      RoundTrips deserializeRoomObjects (serializeRoomObjects m) m.onWire) :=
  ⟨clientHello_roundTrips, rpc_roundTrips, deviceIdMapping_roundTrips, globalVarSet_roundTrips,
    globalVarSync_roundTrips, clientVarSet_roundTrips, clientVarSync_roundTrips,
    clientVarClear_roundTrips, objectOwnershipRequest_roundTrips,
    objectOwnershipChanged_roundTrips, objectOwnershipRejected_roundTrips, objectPose_roundTrips,
    roomObjects_roundTrips⟩

/-- A room of two objects: the coordinates of the first are one that fits, one that is rounded and
one that is clamped. -/
def twoObjects : RoomObjectsMessage ℚ :=
  ⟨1, [⟨7, 3, 65535, 2, ⟨1, -617 / 500, 100000⟩, ⟨0, 3 / 5, 0, 4 / 5⟩⟩,
    ⟨8, 0, 1, 4, ⟨0, 1 / 200, 3 / 200⟩, ⟨0, 0, 0, -1⟩⟩]⟩

/-- One client with two variables, one of them empty, through the nested lists of a client sync; and
two objects with their positions and rotations. -/
theorem messages_roundTrip_variables_objects :
    RoundTrips deserializeClientVarSync
        (serializeClientVarSync ⟨[(7, [⟨[104, 112], [57], 7⟩, ⟨[97], [], 0⟩])]⟩)
        ⟨[(7, [⟨[104, 112], [57], 7⟩, ⟨[97], [], 0⟩])]⟩ ∧
      RoundTrips deserializeRoomObjects (serializeRoomObjects twoObjects) twoObjects.onWire ∧
      twoObjects.onWire.objects.map
          (fun object ↦ [object.position.x, object.position.y, object.position.z]) =
        [[1, -123 / 100, 8388607 / 100], [0, 0, 1 / 50]] ∧
      ∀ object ∈ twoObjects.onWire.objects.head?,
        |object.rotation.y - 3 / 5| < 1 / 1000 ∧ |object.rotation.w - 4 / 5| < 1 / 1000 := by
  have h := messages_roundTrip (D := ℚ)
  refine ⟨?_, ?_, by decide +kernel, by decide +kernel⟩
  · exact h.2.2.2.2.2.2.1 ⟨[(7, [⟨[104, 112], [57], 7⟩, ⟨[97], [], 0⟩])]⟩ (by decide) (by decide)
  · exact h.2.2.2.2.2.2.2.2.2.2.2.2 twoObjects (by decide)

end StylyNetSync
