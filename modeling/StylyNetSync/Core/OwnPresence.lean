import StylyNetSync.Core.PollParts
import StylyNetSync.Foundation.Run

/-!
# The own client and the remote ones

A room pose lists everybody in the room, this client included, and the local avatar is not to be
echoed back: the entry with the own number is left out. The own number comes on the other lane, in a
device id mapping, and a poll takes the room pose first. So a pose can be stored before the client
learns that it is its own, and nothing removes it then.

Other than this nothing can go wrong: the number that the mappings of a poll give the client is
among the remote ones afterwards exactly if it is a new one and the room pose in effect lists it.
-/

namespace StylyNetSync

/-- Events that announce a client. -/
def Event.announces : Event → Option ℤ
  | .avatarConnected clientNo _ => some clientNo
  | _ => none

theorem Event.announces_of_not_tells {event : Event} (h : event.tells = false) :
    event.announces = none := by
  cases event with
  | avatarConnected clientNo deviceId => simp [tells] at h
  | _ => rfl

namespace Session

section Control

variable {D : Type}

/-- The second session has the same remote poses, announces no one else, and has this number. -/
structure Renumbered (s s' : Session D) (number : ℤ) : Prop where
  localDeviceId : s'.client.mapping.localDeviceId = s.client.mapping.localDeviceId
  clientNo : s'.client.clientNo = number
  remotePoses : s'.client.remotePoses = s.client.remotePoses
  events : ∀ event ∈ s'.events, event ∈ s.events ∨ event.announces = none

theorem Renumbered.trans {s s₁ s₂ : Session D} {number number' : ℤ} (h₁ : Renumbered s s₁ number)
    (h₂ : Renumbered s₁ s₂ number') : Renumbered s s₂ number' where
  localDeviceId := h₂.localDeviceId.trans h₁.localDeviceId
  clientNo := h₂.clientNo
  remotePoses := h₂.remotePoses.trans h₁.remotePoses
  events event hevent := by
    rcases h₂.events event hevent with h | h
    · exact h₁.events event h
    · exact Or.inr h

/-- Nothing but events that announce no one. -/
theorem renumbered_of_events {s s' : Session D} (hmapping : s'.client.mapping = s.client.mapping)
    (hremotePoses : s'.client.remotePoses = s.client.remotePoses) {more : List Event}
    (hevents : s'.events = s.events ++ more) (hmore : ∀ event ∈ more, event.announces = none) :
    Renumbered s s' s.client.clientNo where
  localDeviceId := by rw [hmapping]
  clientNo := by rw [NetSyncClient.clientNo, hmapping, NetSyncClient.clientNo]
  remotePoses := hremotePoses
  events event hevent := by
    rw [hevents] at hevent
    rcases List.mem_append.mp hevent with hold | hnew
    · exact Or.inl hold
    · exact Or.inr (hmore event hnew)

theorem Aside.renumbered {s s' : Session D} (h : Aside s s') :
    Renumbered s s' s.client.clientNo := by
  obtain ⟨more, hevents, hmore⟩ := h.events
  exact renumbered_of_events h.mapping h.remotePoses hevents fun event hevent ↦
    Event.announces_of_not_tells (hmore event hevent)

theorem renumbered_processDeviceIdMapping (message : DeviceIdMappingMessage) (s : Session D) :
    Renumbered s (s.processDeviceIdMapping message)
      (DeviceMapping.numberFrom s.client.mapping.localDeviceId s.client.clientNo message) := by
  obtain ⟨hid, hnumber⟩ := DeviceMapping.apply_local message s.client.mapping
  have htable : Renumbered s
      { s with client := { s.client with mapping := (s.client.mapping.apply message).2 } }
      (DeviceMapping.numberFrom s.client.mapping.localDeviceId s.client.clientNo message) :=
    ⟨hid, hnumber, rfl, fun _ h ↦ Or.inl h⟩
  have haside := (aside_processDeviceIdMapping message s).renumbered
  rw [htable.clientNo] at haside
  exact htable.trans haside

variable [Double D]

/-- **A control payload** touches nothing but the number, and that only if it is a mapping. -/
theorem renumbered_processControlPayload (decode : Bytes → Option (List Bytes)) (s : Session D)
    (payload : Bytes) :
    Renumbered s (s.processControlPayload decode payload)
      ((mappingOf payload).toList.foldl
        (DeviceMapping.numberFrom s.client.mapping.localDeviceId) s.client.clientNo) := by
  obtain ⟨message, hmessage, heq⟩ | ⟨hnone, hother⟩ := s.processControlPayload_cases decode payload
  · rw [heq, hmessage]
    exact renumbered_processDeviceIdMapping message s
  · rw [hnone]
    obtain haside | ⟨message, heq⟩ | ⟨message, heq⟩ := hother
    · exact haside.renumbered
    · rw [heq]
      refine renumbered_of_events rfl rfl rfl fun event hevent ↦ ?_
      obtain ⟨change, -, rfl⟩ := List.mem_map.mp hevent
      rfl
    · rw [heq]
      refine renumbered_of_events rfl rfl rfl fun event hevent ↦ ?_
      obtain ⟨change, -, rfl⟩ := List.mem_map.mp hevent
      rfl

/-- The number after some control payloads. -/
def numberAfter (payloads : List Bytes) (s : Session D) : ℤ :=
  (payloads.filterMap mappingOf).foldl
    (DeviceMapping.numberFrom s.client.mapping.localDeviceId) s.client.clientNo

theorem renumbered_control (decode : Bytes → Option (List Bytes)) (payloads : List Bytes)
    (s : Session D) :
    Renumbered s (payloads.foldl (processControlPayload decode) s) (s.numberAfter payloads) := by
  induction payloads generalizing s with
  | nil => exact (Aside.refl s).renumbered
  | cons payload payloads ih =>
    have hfirst := renumbered_processControlPayload decode s payload
    have hrest := ih (s.processControlPayload decode payload)
    have hnumbers : (payload :: payloads).filterMap mappingOf =
        (mappingOf payload).toList ++ payloads.filterMap mappingOf := by
      rcases hpayload : mappingOf payload with - | message
      · rw [List.filterMap_cons_none hpayload]
        rfl
      · rw [List.filterMap_cons_some hpayload]
        rfl
    rw [numberAfter, hfirst.localDeviceId, hfirst.clientNo, ← List.foldl_append, ← hnumbers]
      at hrest
    exact hfirst.trans hrest

end Control

/-! ### The room pose -/

section Pose

variable {D : Type}

theorem mem_remoteClientNumbers {c : NetSyncClient D} {clientNo : ℤ} :
    clientNo ∈ c.remoteClientNumbers ↔ clientNo ∈ c.remotePoses :=
  OrderedMap.mem_keys_toList

/-- The own number is not among the remote ones. -/
def OwnApart (s : Session D) : Prop :=
  s.client.clientNo ≠ 0 → s.client.clientNo ∉ s.client.remoteClientNumbers

/-- The numbers that a room pose lists. -/
def listed (message : RoomPoseMessage D) : List ℤ :=
  message.clients.map fun client ↦ (client.clientNo.toNat : ℤ)

/-- The own entry is left out, once there is a number. -/
theorem mem_remoteClients {localClientNo clientNo : ℤ} {clients : List (RoomPoseClient D)} :
    clientNo ∈
        (remoteClients localClientNo clients).map (fun client ↦ (client.clientNo.toNat : ℤ)) ↔
      clientNo ∈ clients.map (fun client ↦ (client.clientNo.toNat : ℤ)) ∧
        ¬(clientNo = localClientNo ∧ localClientNo ≠ 0) := by
  rw [remoteClients, List.mem_map, List.mem_map]
  constructor
  · rintro ⟨client, hclient, rfl⟩
    have hremote := (List.mem_filter.mp hclient).2
    exact ⟨⟨client, List.mem_of_mem_filter hclient, rfl⟩, by simpa [imp_iff_not_or] using hremote⟩
  · rintro ⟨⟨client, hclient, rfl⟩, hremote⟩
    exact ⟨client, List.mem_filter.mpr ⟨hclient, by simpa [imp_iff_not_or] using hremote⟩, rfl⟩

/-- **A room pose** stores whomever it lists, but not this client, and announces no one else. -/
theorem applyRoomPose_presence (message : RoomPoseMessage D) (s : Session D) :
    (s.applyRoomPose message).client.mapping.localDeviceId = s.client.mapping.localDeviceId ∧
    (s.applyRoomPose message).client.clientNo = s.client.clientNo ∧
    (∀ clientNo ≠ 0, clientNo ∈ (s.applyRoomPose message).client.remotePoses ↔
      clientNo ∈ listed message ∧ clientNo ≠ s.client.clientNo) ∧
    ∀ event ∈ (s.applyRoomPose message).events, event ∈ s.events ∨
      ∀ clientNo, event.announces = some clientNo →
        clientNo ∈ (s.applyRoomPose message).client.remotePoses := by
  let remote := (remoteClients s.client.mapping.localClientNo message.clients).map
    fun client ↦ (client.clientNo.toNat : ℤ)
  obtain ⟨hid, hnumber, hconnected⟩ := s.client.mapping.updatePresence_local remote
  have hstored (clientNo : ℤ) :
      clientNo ∈ (s.applyRoomPose message).client.remotePoses ↔ clientNo ∈ remote := by
    refine (OrderedMap.mem_foldl_insert _ ∅ clientNo).trans ?_
    rw [or_iff_left Std.ExtTreeMap.not_mem_empty]
  refine ⟨hid, hnumber, fun clientNo hne ↦ ?_, fun event hevent ↦ ?_⟩
  · rw [hstored, mem_remoteClients]
    refine and_congr Iff.rfl (not_congr ⟨And.left, fun heq ↦ ⟨heq, ?_⟩⟩)
    exact fun hzero ↦ hne (heq.trans hzero)
  · rcases List.mem_append.mp hevent with hevent | hevent
    · rcases List.mem_append.mp hevent with hevent | hevent
      · exact Or.inl hevent
      · obtain ⟨clientNo, hclientNo, rfl⟩ := List.mem_map.mp hevent
        refine Or.inr fun clientNo' heq ↦ ?_
        rw [← Option.some.inj heq, hstored]
        exact hconnected clientNo hclientNo
    · obtain ⟨clientNo, -, rfl⟩ := List.mem_map.mp hevent
      exact Or.inr fun clientNo' heq ↦ absurd heq (by simp [Event.announces])

end Pose

/-! ### A poll -/

section Poll

variable {D : Type} [DoubleTrig D]

/-- The numbers of the room pose in effect: of the one that came, if it is well-formed and of this
room, and else of the one that is stored. -/
def framed (pose : Option Bytes) (s : Session D) : List ℤ :=
  match pose.bind fun payload ↦ (deserializeRoomPose.run payload).1 with
  | none => s.client.remoteClientNumbers
  | some message =>
    if message.roomId = s.client.config.roomId then listed (D := D) message
    else s.client.remoteClientNumbers

/-- What is stored, apart from the number of this client. -/
structure Frames (s s' : Session D) (pose : Option Bytes) : Prop where
  localDeviceId : s'.client.mapping.localDeviceId = s.client.mapping.localDeviceId
  clientNo : s'.client.clientNo = s.client.clientNo
  remotePoses : ∀ clientNo ≠ 0, clientNo ∈ s'.client.remotePoses ↔
    clientNo ∈ s.framed pose ∧ clientNo ≠ s.client.clientNo
  events : ∀ event ∈ s'.events, ∀ clientNo, event.announces = some clientNo →
    clientNo ∈ s'.client.remotePoses

/-- Without a room pose of this room everything stays. -/
theorem Frames.of_stored {s s' : Session D} {pose : Option Bytes}
    (hframed : s.framed pose = s.client.remoteClientNumbers) (hapart : OwnApart s)
    (hevents : ∀ event ∈ s.events, event.announces = none) (hsame : s'.client = s.client)
    (hsameEvents : s'.events = s.events) : Frames s s' pose where
  localDeviceId := by rw [hsame]
  clientNo := by rw [hsame]
  remotePoses clientNo hne := by
    rw [hframed, hsame, mem_remoteClientNumbers]
    refine ⟨fun hmem ↦ ⟨hmem, ?_⟩, And.left⟩
    rintro rfl
    exact hapart hne (mem_remoteClientNumbers.mpr hmem)
  events event hevent clientNo hclientNo := by
    rw [hsameEvents] at hevent
    rw [hevents event hevent] at hclientNo
    exact absurd hclientNo (by simp)

theorem frames_roomPose (pose : Option Bytes) {s : Session D} (hapart : OwnApart s)
    (hevents : ∀ event ∈ s.events, event.announces = none) :
    Frames s (pose.elim s s.processRoomPose) pose := by
  rcases pose with - | payload
  · exact Frames.of_stored rfl hapart hevents rfl rfl
  · show Frames s (s.processRoomPose payload) (some payload)
    rcases hread : ((deserializeRoomPose (D := D)).run payload).1 with - | message
    · have hframed : s.framed (some payload) = s.client.remoteClientNumbers := by
        rw [framed, Option.bind_some, hread]
      rw [processRoomPose, hread]
      exact Frames.of_stored hframed hapart hevents rfl rfl
    · rw [processRoomPose, hread]
      dsimp only
      split_ifs with hroom
      · have hframed : s.framed (some payload) = s.client.remoteClientNumbers := by
          rw [framed, Option.bind_some, hread]
          exact if_neg hroom
        exact Frames.of_stored hframed hapart hevents rfl rfl
      · have hframed : s.framed (some payload) = listed message := by
          rw [framed, Option.bind_some, hread]
          exact if_pos (not_not.mp hroom)
        obtain ⟨hid, hnumber, hstored, hannounced⟩ := s.applyRoomPose_presence message
        refine ⟨hid, hnumber, fun clientNo hne ↦ ?_, fun event hevent clientNo hclientNo ↦ ?_⟩
        · rw [hframed]
          exact hstored clientNo hne
        · rcases hannounced event hevent with hold | hnew
          · rw [hevents event hold] at hclientNo
            exact absurd hclientNo (by simp)
          · exact hnew clientNo hclientNo

variable [DoubleText D]

/-- **Presence after a poll.** The number is the one that the mappings give, and the remote clients
are those of the room pose in effect, but for the number that this client had before. -/
theorem poll_presence (decode : Bytes → Option (List Bytes)) (now : D) {s : Session D}
    (hstate : s.client.state ≠ .disconnected) (hapart : OwnApart s) :
    (s.poll decode now).2.client.clientNo = s.numberAfter (s.mailOfPoll now).control ∧
    (∀ clientNo ≠ 0, clientNo ∈ (s.poll decode now).2.client.remotePoses ↔
      clientNo ∈ s.framed (s.mailOfPoll now).roomPose ∧ clientNo ≠ s.client.clientNo) ∧
    ∀ event ∈ (s.poll decode now).1, ∀ clientNo, event.announces = some clientNo →
      clientNo ∈ (s.poll decode now).2.client.remotePoses := by
  obtain ⟨s₁, hbefore, hafter, hevents⟩ := poll_parts decode now hstate
  rw [hevents]
  have hstart := hbefore.renumbered
  have hnumber₁ : s₁.client.clientNo = s.client.clientNo := hstart.clientNo
  have hframed₁ : s₁.framed (s.mailOfPoll now).roomPose = s.framed (s.mailOfPoll now).roomPose := by
    rw [framed, framed, hbefore.roomId, NetSyncClient.remoteClientNumbers, hbefore.remotePoses]
    rfl
  have hapart₁ : OwnApart s₁ := by
    rw [OwnApart, hnumber₁, NetSyncClient.remoteClientNumbers, hbefore.remotePoses]
    exact hapart
  have hevents₁ : ∀ event ∈ s₁.events, event.announces = none := fun event hevent ↦
    (hstart.events event hevent).resolve_left List.not_mem_nil
  have hpose := frames_roomPose (s.mailOfPoll now).roomPose hapart₁ hevents₁
  have hcontrol := renumbered_control decode (s.mailOfPoll now).control
    ((s.mailOfPoll now).roomPose.elim s₁ s₁.processRoomPose)
  have hrest := hcontrol.trans hafter.renumbered
  refine ⟨?_, fun clientNo hne ↦ ?_, fun event hevent clientNo hclientNo ↦ ?_⟩
  · rw [hrest.clientNo, hcontrol.clientNo, numberAfter, numberAfter, hpose.localDeviceId,
      hpose.clientNo, hstart.localDeviceId, hnumber₁]
  · rw [hrest.remotePoses, hpose.remotePoses clientNo hne, hframed₁, hnumber₁]
  · rw [hrest.remotePoses]
    rcases hrest.events event hevent with hold | hnone
    · exact hpose.events event hold clientNo hclientNo
    · rw [hnone] at hclientNo
      exact absurd hclientNo (by simp)

/-! ### A session -/

/-- After a poll the own number, once there is one, is not among the remote clients, has no remote
pose, and was not announced by this poll. -/
def NeverOwn (decode : Bytes → Option (List Bytes)) (s : Session D) : SessionStep D → Prop
  | .call (.poll now) schedule =>
    let called : Session D := { s with shared := { s.shared with schedule := schedule } }
    let r := called.poll decode now
    let clientNo := r.2.client.clientNo
    clientNo ≠ 0 →
      clientNo ∉ r.2.client.remoteClientNumbers ∧ r.2.client.getRemotePose clientNo = none ∧
        ∀ deviceId, .avatarConnected clientNo deviceId ∉ r.1
  | _ => True

/-- The mappings of a poll give this client a new number that the room pose in effect lists. -/
def TakesListedNumber (s : Session D) : SessionStep D → Prop
  | .call (.poll now) schedule =>
    let s : Session D := { s with shared := { s.shared with schedule := schedule } }
    let mail := s.mailOfPoll now
    let number := s.numberAfter mail.control
    s.client.state ≠ .disconnected ∧ number ≠ 0 ∧ number ≠ s.client.clientNo ∧
      number ∈ s.framed mail.roomPose
  | _ => False

/-- The exact condition of a poll. -/
theorem poll_neverOwn_iff (decode : Bytes → Option (List Bytes)) (now : D) {s : Session D}
    (hapart : OwnApart s) :
    ((s.poll decode now).2.client.clientNo ≠ 0 →
      (s.poll decode now).2.client.clientNo ∉ (s.poll decode now).2.client.remoteClientNumbers ∧
        (s.poll decode now).2.client.getRemotePose (s.poll decode now).2.client.clientNo = none ∧
        ∀ deviceId, .avatarConnected (s.poll decode now).2.client.clientNo deviceId ∉
          (s.poll decode now).1) ↔
      ¬(s.client.state ≠ .disconnected ∧ s.numberAfter (s.mailOfPoll now).control ≠ 0 ∧
        s.numberAfter (s.mailOfPoll now).control ≠ s.client.clientNo ∧
        s.numberAfter (s.mailOfPoll now).control ∈ s.framed (s.mailOfPoll now).roomPose) := by
  by_cases hstate : s.client.state = .disconnected
  · -- the poll does nothing
    refine iff_of_true (fun hne ↦ ?_) fun h ↦ h.1 hstate
    rw [poll_of_disconnected decode now hstate] at hne ⊢
    refine ⟨hapart hne, ?_, fun deviceId ↦ List.not_mem_nil⟩
    exact Std.ExtTreeMap.getElem?_eq_none fun hmem ↦ hapart hne (mem_remoteClientNumbers.mpr hmem)
  · obtain ⟨hnumber, hremote, hannounced⟩ := poll_presence decode now hstate hapart
    rw [hnumber]
    constructor
    · rintro hnever ⟨-, hne, hnew, hlisted⟩
      refine (hnever hne).1 (mem_remoteClientNumbers.mpr ?_)
      exact (hremote _ hne).mpr ⟨hlisted, hnew⟩
    · intro hcond hne
      have hapart' : s.numberAfter (s.mailOfPoll now).control ∉
          (s.poll decode now).2.client.remotePoses := fun hmem ↦
        hcond ⟨hstate, hne, ((hremote _ hne).mp hmem).2, ((hremote _ hne).mp hmem).1⟩
      refine ⟨fun hmem ↦ hapart' (mem_remoteClientNumbers.mp hmem),
        Std.ExtTreeMap.getElem?_eq_none hapart', fun deviceId hmem ↦ hapart' ?_⟩
      exact hannounced _ hmem _ rfl

/-- **The exact step.** -/
theorem neverOwn_iff (decode : Bytes → Option (List Bytes)) {s : Session D} (hapart : OwnApart s)
    (e : SessionStep D) : s.NeverOwn decode e ↔ ¬s.TakesListedNumber e := by
  cases e with
  | network n => exact iff_of_true trivial id
  | call call schedule =>
    cases call with
    | poll now =>
      rw [NeverOwn, TakesListedNumber]
      exact poll_neverOwn_iff (s := { s with shared := { s.shared with schedule := schedule } })
        decode now hapart
    | _ => exact iff_of_true trivial id

/-- Outside the poll neither the number nor the remote poses change. -/
theorem ownApart_step (decode : Bytes → Option (List Bytes)) {s : Session D} (hapart : OwnApart s)
    {e : SessionStep D} (hnever : s.NeverOwn decode e) : OwnApart (s.step decode e) := by
  cases e with
  | network n => exact hapart
  | call call schedule =>
    rw [step]
    by_cases hpoll : ∃ now, call = .poll now
    · obtain ⟨now, rfl⟩ := hpoll
      rw [NeverOwn] at hnever
      rw [perform]
      exact fun hne ↦ (hnever hne).1
    · obtain ⟨hmapping, hposes⟩ := presence_perform decode
        { s with shared := { s.shared with schedule := schedule } }
        fun now hcall ↦ hpoll ⟨now, hcall⟩
      rw [OwnApart, NetSyncClient.clientNo, hmapping, NetSyncClient.remoteClientNumbers, hposes]
      exact hapart

/-- **This client is never one of its own remote clients** exactly in those sessions in which no
poll gives it a new number that the room pose in effect lists. -/
theorem own_never_remote_iff (decode : Bytes → Option (List Bytes)) (config : ClientConfig D)
    {s : Session D} (hstate : s.client.state = .disconnected ∨ s.client.state = .error)
    (steps : List (SessionStep D)) :
    Along (step decode) (fun s e ↦ s.NeverOwn decode e) (s.connect config).2 steps ↔
      Along (step decode) (fun s e ↦ ¬s.TakesListedNumber e) (s.connect config).2 steps := by
  have hstart : OwnApart (s.connect config).2 := by
    have haside := aside_connect config hstate
    intro _ hmem
    rw [mem_remoteClientNumbers, haside.remotePoses] at hmem
    exact Std.ExtTreeMap.not_mem_empty hmem
  refine Along.congr_of_kept (I := OwnApart) ?_ ?_ hstart
  · exact fun s e hapart hnever ↦ ownApart_step decode hapart hnever
  · exact fun s e hapart ↦ neverOwn_iff decode hapart e

end Poll

/-! ### Two sessions -/

/-- The configuration of a client with the device id `d`. -/
def deviceConfig : ClientConfig ℚ :=
  { serverAddress := [49], roomId := [114], deviceId := [100], transformSendRate := 10 }

/-- A client that was just connected. -/
def enteredRoom : Session ℚ := ((Session.new 0).connect deviceConfig).2

/-- The numbers 1, of this device, and 2, of another. -/
def twoDevices : Bytes :=
  serializeDeviceIdMapping
    { serverVersionMajor := 0, serverVersionMinor := 0, serverVersionPatch := 0,
      mappings := [⟨1, [100], false⟩, ⟨2, [101], false⟩] }

/-- Both are in the room. -/
def twoPoses : Bytes :=
  serializeRoomPose
    { roomId := [114], broadcastTime := 0,
      clients :=
        [⟨1, 0, (ClientPoseBody.default : ClientPoseBody ℚ)⟩, ⟨2, 0, ClientPoseBody.default⟩] }

/-- The number is learnt before the first room pose. -/
def numberFirst : List (SessionStep ℚ) :=
  [.network (.payload .control twoDevices), .call (.poll 0) [],
    .network (.payload .roomPose twoPoses), .call (.poll 1) []]

theorem own_never_remote_numberFirst :
    (numberFirst.foldl (step fun _ ↦ none) enteredRoom).client.remoteClientNumbers = [2] ∧
      Along (step fun _ ↦ none) (fun s e ↦ s.NeverOwn (fun _ ↦ none) e) enteredRoom
        numberFirst := by
  refine ⟨by decide +kernel, ?_⟩
  refine (own_never_remote_iff (fun _ ↦ none) deviceConfig (s := Session.new 0) (Or.inl rfl)
    numberFirst).mpr ?_
  refine ⟨id, ?_, id, ?_, trivial⟩
  · rintro ⟨-, -, -, hlisted⟩
    exact absurd hlisted (by decide +kernel)
  · rintro ⟨-, -, hnew, -⟩
    exact hnew (by decide +kernel)

/-- The room pose comes before the number. -/
def poseFirst : List (SessionStep ℚ) :=
  [.network (.payload .roomPose twoPoses), .call (.poll 0) [],
    .network (.payload .control twoDevices), .call (.poll 1) []]

/-- The client learns its number and finds itself among the remote clients. -/
theorem own_pose_kept :
    let s := poseFirst.foldl (step fun _ ↦ none) enteredRoom
    s.client.clientNo = 1 ∧ s.client.remoteClientNumbers = [1, 2] ∧
      (s.client.getRemotePose 1).isSome = true ∧
      ¬Along (step fun _ ↦ none) (fun s e ↦ s.NeverOwn (fun _ ↦ none) e) enteredRoom poseFirst := by
  refine ⟨by decide +kernel, by decide +kernel, by decide +kernel, ?_⟩
  rintro ⟨-, -, -, hnever, -⟩
  exact (hnever (by decide +kernel)).1 (by decide +kernel)

end Session

end StylyNetSync
