import StylyNetSync.Core.Presence
import StylyNetSync.Core.SessionRule
import StylyNetSync.Core.VariableWire
import StylyNetSync.Protocol.PoseBody

/-!
# Identities that go over the wire

A client names itself in its hello, and learns its number from the mapping entry that repeats the
name. It names its room when it connects, and takes a room pose only if the frame names the same
room. Both names are compared byte by byte with what was configured, and both come back from a field
whose length is one byte: of a name of more than 255 bytes the wire carries only a beginning.

So the names survive exactly if they fit (`identities_survive_iff`). A longer device id is never
found in a mapping again, and the client never gets a number; of a longer room every room pose is
discarded.
-/

namespace StylyNetSync

open Scan

theorem wireString8_idem (value : Bytes) : wireString8 (wireString8 value) = wireString8 value :=
  wireString8_eq_self_iff.mpr (length_truncateUtf8Bytes_le value 255)

/-! ### The own entry of a mapping -/

namespace DeviceMapping

/-- No entry is about this device. -/
theorem numberFrom_of_absent {deviceId : Bytes} {message : DeviceIdMappingMessage}
    (h : ∀ entry ∈ message.mappings, entry.deviceId ≠ deviceId) (number : ℤ) :
    numberFrom deviceId number message = number := by
  refine List.foldlRecOn (motive := fun found ↦ found = number) message.mappings _ rfl ?_
  intro found hfound entry hentry
  rw [if_neg]
  · exact hfound
  · simp [h entry hentry]

/-- All entries about this device agree on the number, and there is one. -/
theorem numberFrom_of_agree {deviceId : Bytes} {message : DeviceIdMappingMessage} {given : UInt16}
    (hdevice : deviceId ≠ []) (hone : ∃ entry ∈ message.mappings, entry.deviceId = deviceId)
    (hagree : ∀ entry ∈ message.mappings, entry.deviceId = deviceId → entry.clientNo = given)
    (number : ℤ) : numberFrom deviceId number message = given.toNat := by
  have hloop (entries : List DeviceIdMappingEntry)
      (hagree : ∀ entry ∈ entries, entry.deviceId = deviceId → entry.clientNo = given) (number : ℤ)
      (hone : number = given.toNat ∨ ∃ entry ∈ entries, entry.deviceId = deviceId) :
      entries.foldl (fun number entry ↦
        if !deviceId.isEmpty && entry.deviceId = deviceId then (entry.clientNo.toNat : ℤ)
        else number) number = given.toNat := by
    induction entries generalizing number with
    | nil => exact hone.resolve_right (by simp)
    | cons entry rest ih =>
      refine ih (fun e he ↦ hagree e (List.mem_cons_of_mem _ he)) _ ?_
      dsimp only
      by_cases hid : entry.deviceId = deviceId
      · refine Or.inl ?_
        rw [if_pos (by simp [hdevice, hid]), hagree entry List.mem_cons_self hid]
      · rw [if_neg (by simp [hid])]
        refine hone.imp_right ?_
        rintro ⟨e, he, hmatch⟩
        rcases List.mem_cons.mp he with rfl | he
        · exact absurd hmatch hid
        · exact ⟨e, he, hmatch⟩
  exact hloop message.mappings hagree number (Or.inr hone)

end DeviceMapping

/-! ### The room of a room pose -/

/-- **The head of a room pose.** However many clients are written behind it, a room pose decodes,
and its room is what the wire carries of the room it was built for. -/
theorem roomPose_decodes {D : Type} [DoubleTrig D] (message : RoomPoseMessage D) :
    ∃ decoded : RoomPoseMessage D,
      (deserializeRoomPose.run (serializeRoomPose message)).1 = some decoded ∧
        decoded.roomId = wireString8 message.roomId := by
  let count := (UInt16.ofNat message.clients.length).toNat
  let written := message.clients.take count
  have hlength : written.length = count := by
    rw [List.length_take]
    refine Nat.min_eq_left ?_
    dsimp only [count]
    rw [UInt16.toNat_ofNat']
    exact Nat.mod_le _ _
  -- what is read: the head, and as many clients as the count says
  have hparses : Parses sizeMod deserializeRoomPose
      [writeU8 MessageType.roomPose.code, writeU8 kProtocolVersion, writeString8 message.roomId,
        writeF64 message.broadcastTime, writeU16 (UInt16.ofNat message.clients.length),
        written.flatMap writeRoomPoseClient].flatten
      { roomId := wireString8 message.roomId, broadcastTime := message.broadcastTime,
        clients := written.map RoomPoseClient.onWire } := by
    refine beginMessage_versioned <| (readString8_parses _).cons <| (readF64_parses _).cons <|
      (readU16_parses _).cons <| Parses.check_bind ?_
    have hclients : Parses sizeMod (repeatN written.length readRoomPoseClient)
        (written.flatMap writeRoomPoseClient) (written.map RoomPoseClient.onWire) :=
      Parses.repeatN fun client _ ↦ readRoomPoseClient_parses client
    rw [hlength] at hclients
    exact hclients.cons (check_pure_parses _)
  let unread := (message.clients.drop count).flatMap writeRoomPoseClient
  have hpayload : serializeRoomPose message =
      [writeU8 MessageType.roomPose.code, writeU8 kProtocolVersion, writeString8 message.roomId,
        writeF64 message.broadcastTime, writeU16 (UInt16.ofNat message.clients.length),
        written.flatMap writeRoomPoseClient].flatten ++ unread := by
    have hsplit : message.clients.flatMap writeRoomPoseClient =
        written.flatMap writeRoomPoseClient ++ unread := by
      rw [← List.flatMap_append, List.take_append_drop]
    rw [serializeRoomPose, hsplit]
    simp only [List.flatten_cons, List.flatten_nil, List.append_nil, List.append_assoc]
  refine ⟨⟨wireString8 message.roomId, message.broadcastTime, written.map RoomPoseClient.onWire⟩,
    ?_, rfl⟩
  have hread := hparses [] unread ?_
  · rw [hpayload]
    exact congrArg Prod.fst hread
  · have hroom := length_writeString8_le message.roomId
    have hlist := length_flatMap_le writeRoomPoseClient written fun client _ ↦
      length_writeRoomPoseClient_le client
    have hcount : count < 65536 := UInt16.toNat_lt _
    simp only [length_flatten_cons, List.flatten_nil, List.length_nil, length_writeU8,
      length_writeU16, length_writeF64, sizeMod]
    omega

namespace Session

section Identity

variable {D : Type}

/-- The device id that the hello of this client delivers. -/
def greetedAs (c : NetSyncClient D) : Option Bytes :=
  (deserializeClientHello.run c.helloMessage.payload).1.map ClientHelloMessage.deviceId

/-- The payload is a device id mapping that gives this number to the device id of the hello. -/
structure AnswersHello (s : Session D) (payload : Bytes) (number : UInt16) : Prop where
  mapping : ∃ message deviceId, mappingOf payload = some message ∧
    greetedAs s.client = some deviceId ∧
    (∃ entry ∈ message.mappings, entry.deviceId = deviceId) ∧
    ∀ entry ∈ message.mappings, entry.deviceId = deviceId → entry.clientNo = number
  nonzero : number ≠ 0

/-- The client takes the number of every answer to its hello. -/
def LearnsNumber [Double D] (decode : Bytes → Option (List Bytes)) (s : Session D) : Prop :=
  ∀ payload number, s.AnswersHello payload number →
    (s.processControlPayload decode payload).client.clientNo = number.toNat

/-- The client takes every room pose that is built for the room. -/
def AcceptsRoomPoses [DoubleTrig D] (roomId : Bytes) (s : Session D) : Prop :=
  ∀ message : RoomPoseMessage D, message.roomId = roomId →
    ∃ decoded, (deserializeRoomPose.run (serializeRoomPose message)).1 = some decoded ∧
      decoded.roomId = s.client.config.roomId ∧
      s.processRoomPose (serializeRoomPose message) = s.applyRoomPose decoded

/-- The session is one of this device, in this room. -/
structure Identified (deviceId roomId : Bytes) (s : Session D) : Prop where
  hello : ∃ isStealth, s.client.helloMessage = .clientHello deviceId isStealth
  localDeviceId : s.client.mapping.localDeviceId = deviceId
  roomId : s.client.config.roomId = roomId

/-! ### What one session makes of its identity -/

variable {deviceId roomId : Bytes} {s : Session D}

theorem Identified.greetedAs (h : Identified deviceId roomId s) :
    greetedAs s.client = some (wireString8 deviceId) := by
  obtain ⟨isStealth, hhello⟩ := h.hello
  have hread : deserializeClientHello.run (serializeClientHello deviceId isStealth) = _ :=
    clientHello_roundTrips deviceId isStealth
  rw [Session.greetedAs, hhello, ControlMessage.payload, hread]
  rfl

variable [DoubleTrig D]

/-- A device id that fits is found in the answer. -/
theorem Identified.learnsNumber (h : Identified deviceId roomId s) (hdevice : deviceId ≠ [])
    (hfits : deviceId.length ≤ 255) (decode : Bytes → Option (List Bytes)) :
    s.LearnsNumber decode := by
  rintro payload number ⟨⟨message, greeted, hmapping, hgreeted, hone, hagree⟩, -⟩
  rw [h.greetedAs, wireString8_eq_self_iff.mpr hfits] at hgreeted
  obtain rfl := Option.some.inj hgreeted
  rw [(renumbered_processControlPayload decode s payload).clientNo, hmapping, h.localDeviceId]
  exact DeviceMapping.numberFrom_of_agree hdevice hone hagree _

/-- The answer to the hello, with the number one. -/
def answer (deviceId : Bytes) : DeviceIdMappingMessage where
  serverVersionMajor := 0
  serverVersionMinor := 0
  serverVersionPatch := 0
  mappings := [⟨1, wireString8 deviceId, false⟩]

theorem mappingOf_answer (deviceId : Bytes) :
    mappingOf (serializeDeviceIdMapping (answer deviceId)) = some (answer deviceId) := by
  have hread : deserializeDeviceIdMapping.run (serializeDeviceIdMapping (answer deviceId)) = _ :=
    deviceIdMapping_roundTrips (answer deviceId) (show 1 ≤ 65535 by decide)
  have hwire : (answer deviceId).onWire = answer deviceId := by
    rw [DeviceIdMappingMessage.onWire, answer, List.map_singleton, DeviceIdMappingEntry.onWire,
      wireString8_idem]
  have htype : peekMessageType (serializeDeviceIdMapping (answer deviceId)) =
      MessageType.deviceIdMapping.code := rfl
  rw [mappingOf, if_pos htype, hread, hwire]

/-- A device id that does not fit is not found in the answer, and the number stays. -/
theorem Identified.not_learnsNumber (h : Identified deviceId roomId s)
    (hlong : ¬deviceId.length ≤ 255) (hnumber : s.client.clientNo = 0)
    (decode : Bytes → Option (List Bytes)) : ¬s.LearnsNumber decode := by
  intro hlearns
  have hanswers : s.AnswersHello (serializeDeviceIdMapping (answer deviceId)) 1 := by
    refine ⟨⟨_, _, mappingOf_answer deviceId, h.greetedAs, ⟨_, List.mem_singleton_self _, rfl⟩, ?_⟩,
      by decide⟩
    intro entry hentry _
    rw [List.mem_singleton.mp hentry]
  have habsent : ∀ entry ∈ (answer deviceId).mappings, entry.deviceId ≠ deviceId := by
    intro entry hentry hsame
    rw [List.mem_singleton.mp hentry] at hsame
    exact hlong (wireString8_eq_self_iff.mp hsame)
  have hlearnt := hlearns _ 1 hanswers
  rw [(renumbered_processControlPayload decode s _).clientNo, mappingOf_answer, h.localDeviceId,
    hnumber] at hlearnt
  have hkept := (DeviceMapping.numberFrom_of_absent habsent 0).symm.trans hlearnt
  exact absurd hkept (by decide)

/-- Room poses are taken exactly if the room fits. -/
theorem Identified.acceptsRoomPoses_iff (h : Identified deviceId roomId s) :
    s.AcceptsRoomPoses roomId ↔ roomId.length ≤ 255 := by
  rw [← wireString8_eq_self_iff]
  constructor
  · intro haccepts
    obtain ⟨decoded, hread, hroom, -⟩ :=
      haccepts { roomId := roomId, broadcastTime := 0, clients := [] } rfl
    obtain ⟨decoded', hread', hroom'⟩ :=
      roomPose_decodes (D := D) { roomId := roomId, broadcastTime := 0, clients := [] }
    obtain rfl := Option.some.inj (hread.symm.trans hread')
    rw [← hroom', hroom, h.roomId]
  · rintro hfits message rfl
    obtain ⟨decoded, hread, hroom⟩ := roomPose_decodes message
    have hsame : decoded.roomId = s.client.config.roomId := by rw [hroom, hfits, h.roomId]
    refine ⟨decoded, hread, hsame, ?_⟩
    rw [processRoomPose, hread]
    exact if_neg (not_not.mpr hsame)

end Identity

/-! ### Sessions -/

section Run

variable {D : Type} [DoubleTrig D]

/-- The identity as the tables have it. -/
def place (s : Session D) : Bytes × Bytes :=
  (s.client.mapping.localDeviceId, s.client.config.roomId)

omit [DoubleTrig D] in
theorem Aside.place {s s' : Session D} (h : Aside s s') : s'.place = s.place := by
  rw [Session.place, Session.place, h.mapping, h.roomId]

theorem place_processRoomPose (payload : Bytes) (s : Session D) :
    (s.processRoomPose payload).place = s.place := by
  obtain haside | ⟨message, -, -, heq⟩ := s.processRoomPose_cases payload
  · exact haside.place
  · rw [heq]
    exact Prod.ext (s.applyRoomPose_presence message).1 rfl

theorem place_processControlPayload (decode : Bytes → Option (List Bytes)) (s : Session D)
    (payload : Bytes) : (s.processControlPayload decode payload).place = s.place := by
  obtain ⟨message, -, heq⟩ | ⟨-, haside | ⟨message, heq⟩ | ⟨message, heq⟩⟩ :=
    s.processControlPayload_cases decode payload
  · rw [heq, (aside_processDeviceIdMapping message s).place]
    exact Prod.ext (DeviceMapping.apply_local message s.client.mapping).1 rfl
  · exact haside.place
  · rw [heq]
    rfl
  · rw [heq]
    rfl

variable [DoubleText D]

theorem place_poll (decode : Bytes → Option (List Bytes)) (now : D) (s : Session D) :
    (s.poll decode now).2.place = s.place := by
  by_cases hstate : s.client.state = .disconnected
  · rw [poll_of_disconnected decode now hstate]
  · obtain ⟨s₁, hbefore, hafter, -⟩ := poll_parts decode now hstate
    rw [hafter.place]
    refine List.foldlRecOn (motive := fun s' : Session D ↦ s'.place = s.place) _ _ ?_
      fun s' hs payload _ ↦ (place_processControlPayload decode s' payload).trans hs
    rcases (s.mailOfPoll now).roomPose with - | payload
    · exact hbefore.place
    · exact (place_processRoomPose payload s₁).trans hbefore.place

/-- **No step changes the identity.** -/
theorem place_step (decode : Bytes → Option (List Bytes)) (s : Session D) (e : SessionStep D) :
    (s.step decode e).place = s.place := by
  cases e with
  | network n => rfl
  | call call schedule =>
    by_cases hpoll : ∃ now, call = .poll now
    · obtain ⟨now, rfl⟩ := hpoll
      exact place_poll decode now { s with shared := { s.shared with schedule := schedule } }
    · by_cases hclear : call = .clearMyClientVariables
      · subst hclear
        rfl
      · exact (aside_perform decode { s with shared := { s.shared with schedule := schedule } }
          (fun now h ↦ hpoll ⟨now, h⟩) hclear).place

omit [DoubleText D] in
theorem rule_hello (hello : ControlMessage) :
    Rule fun s : Session D ↦ s.client.helloMessage = hello where
  moves hmoves h := hmoves.hello.trans h
  shifts _ h := h
  writes hwrites h := hwrites.hello.trans h
  hello _ h := h
  clientSync _ h := h

theorem identified_step (decode : Bytes → Option (List Bytes)) {deviceId roomId : Bytes}
    {s : Session D} (h : Identified deviceId roomId s) (e : SessionStep D) :
    Identified deviceId roomId (s.step decode e) := by
  obtain ⟨isStealth, hhello⟩ := h.hello
  obtain ⟨hid, hroom⟩ := Prod.mk.inj (place_step decode s e)
  refine ⟨⟨isStealth, ?_⟩, hid.trans h.localDeviceId, hroom.trans h.roomId⟩
  exact (rule_hello (.clientHello deviceId isStealth)).step decode e hhello

omit [DoubleText D] in
/-- A session begins with the configured identity, and without a number. -/
theorem identified_connect (config : ClientConfig D) (hroom : config.roomId ≠ []) {s : Session D}
    (hstate : s.client.state = .disconnected ∨ s.client.state = .error) :
    Identified config.deviceId config.roomId (s.connect config).2 ∧
      (s.connect config).2.client.clientNo = 0 := by
  have haside := aside_connect config hstate
  have hempty : config.roomId.isEmpty = false := by simpa using hroom
  refine ⟨⟨⟨config.stealthMode, ?_⟩, ?_, ?_⟩, ?_⟩
  · exact (moves_connect (Q := noMessage) config hstate).hello
  · rw [haside.mapping]
    rfl
  · rw [haside.roomId]
    show (if config.roomId.isEmpty then kDefaultRoom else config.roomId) = config.roomId
    rw [hempty]
    rfl
  · rw [NetSyncClient.clientNo, haside.mapping]
    rfl

/-- **Which identities survive the wire.** In a session of a client that has a device id and a
room, the client takes the number of every answer to its hello, wherever the session is, if and only
if the device id takes at most 255 bytes; and it takes every room pose that is built for its room if
and only if the room takes at most 255 bytes. -/
theorem identities_survive_iff (decode : Bytes → Option (List Bytes)) (config : ClientConfig D)
    (hdevice : config.deviceId ≠ []) (hroom : config.roomId ≠ []) {s : Session D}
    (hstate : s.client.state = .disconnected ∨ s.client.state = .error) :
    ((∀ steps : List (SessionStep D),
      LearnsNumber decode (steps.foldl (step decode) (s.connect config).2)) ↔
        config.deviceId.length ≤ 255) ∧
    ((∀ steps : List (SessionStep D),
      AcceptsRoomPoses config.roomId (steps.foldl (step decode) (s.connect config).2)) ↔
        config.roomId.length ≤ 255) := by
  obtain ⟨hstart, hnumber⟩ := identified_connect config hroom hstate
  have hrun (steps : List (SessionStep D)) : Identified config.deviceId config.roomId
      (steps.foldl (step decode) (s.connect config).2) :=
    List.foldlRecOn (motive := Identified config.deviceId config.roomId) steps (step decode) hstart
      fun _ h e _ ↦ identified_step decode h e
  constructor
  · constructor
    · intro hlearns
      by_contra hlong
      exact hstart.not_learnsNumber hlong hnumber decode (hlearns [])
    · exact fun hfits steps ↦ (hrun steps).learnsNumber hdevice hfits decode
  · constructor
    · exact fun haccepts ↦ (hrun []).acceptsRoomPoses_iff.mp (haccepts [])
    · exact fun hfits steps ↦ (hrun steps).acceptsRoomPoses_iff.mpr hfits

end Run

theorem identities_survive_deviceConfig :
    (∀ steps : List (SessionStep ℚ),
      LearnsNumber (fun _ ↦ none) (steps.foldl (step fun _ ↦ none) enteredRoom)) ∧
    ∀ steps : List (SessionStep ℚ),
      AcceptsRoomPoses deviceConfig.roomId (steps.foldl (step fun _ ↦ none) enteredRoom) := by
  have hiff := identities_survive_iff (fun _ ↦ none) deviceConfig (by decide) (by decide)
    (s := Session.new 0) (Or.inl rfl)
  exact ⟨hiff.1.mpr (by decide), hiff.2.mpr (by decide)⟩

/-- A name of 256 bytes. -/
def longName : Bytes := (List.replicate 256 'a').flatMap String.utf8EncodeChar

/-- A client whose device id and room have 256 bytes each. -/
def longConfig : ClientConfig ℚ :=
  { serverAddress := [49], roomId := longName, deviceId := longName, transformSendRate := 10 }

/-- **Neither identity survives.** -/
theorem long_identities_lost :
    Utf8.WellFormed longName ∧ longName ≠ [] ∧ ((Session.new 0).connect longConfig).1 = true ∧
      ¬LearnsNumber (fun _ ↦ none) ((Session.new 0).connect longConfig).2 ∧
      ¬AcceptsRoomPoses longName ((Session.new 0).connect longConfig).2 := by
  have hlong : ¬longName.length ≤ 255 := by decide +kernel
  have hname : longName ≠ [] := fun h ↦ hlong (by rw [h]; decide)
  obtain ⟨hidentified, hnumber⟩ := identified_connect longConfig hname
    (s := Session.new 0) (Or.inl rfl)
  refine ⟨wellFormed_of_utf8Encode _, hname, by decide +kernel, ?_, ?_⟩
  · exact hidentified.not_learnsNumber hlong hnumber fun _ ↦ none
  · exact fun haccepts ↦ hlong (hidentified.acceptsRoomPoses_iff.mp haccepts)

end Session

end StylyNetSync
