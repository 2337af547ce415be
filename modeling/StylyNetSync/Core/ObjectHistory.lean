import StylyNetSync.Core.ObjectSchedule
import StylyNetSync.Core.PoseClock

/-!
# Objects in the life of a client

Whatever happens to a client, its object manager only ever gets the calls of `ObjectCall`. In a poll
these are a new identity for each device id mapping, the ownership messages, the latest broadcast,
and one tick at the end; a session begins and ends with the room-scoped state cleared. What holds of
every run of the manager therefore holds along every life of a client, and its objects are published
by their schedule across sessions (`object_schedule`).
-/

namespace StylyNetSync

variable {D : Type}

namespace Session

section Parts

variable [Double D]

/-! ### Calls of the object manager -/

/-- What a control payload makes of the object manager. -/
def controlCall (s : Session D) (payload : Bytes) : Option (ObjectCall D) :=
  if peekMessageType payload = MessageType.deviceIdMapping.code then
    (deserializeDeviceIdMapping.run payload).1.map fun message ↦
      .setLocalIdentity (s.client.mapping.apply message).2.localClientNo s.client.config.deviceId
  else if peekMessageType payload = MessageType.objectOwnershipChanged.code then
    (deserializeObjectOwnershipChanged.run payload).1.map fun message ↦
      .event (.handleOwnershipChanged message)
  else none

def controlCalls (decode : Bytes → Option (List Bytes)) :
    Session D → List Bytes → List (ObjectCall D)
  | _, [] => []
  | s, payload :: payloads =>
    (s.controlCall payload).toList ++ controlCalls decode (s.processControlPayload decode payload)
      payloads

/-- What a broadcast does. -/
def roomObjectsCall (payload : Bytes) : Option (ObjectCall D) :=
  (deserializeRoomObjects.run payload).1.map fun message ↦ .event (.handleRoomObjects message)

/-! ### What leaves the objects alone -/

omit [Double D] in
theorem objects_setState (state : ConnectionState) (s : Session D) :
    (s.setState state).client.objects = s.client.objects := by
  rw [setState]
  split <;> rfl

theorem objects_startTransport (s : Session D) :
    s.startTransport.client.objects = s.client.objects := by
  rw [startTransport]
  dsimp only
  split <;> rfl

theorem objects_handleNotification (s : Session D) (notification : Notification) :
    (s.handleNotification notification).client.objects = s.client.objects := by
  cases notification with
  | connected => exact objects_setState _ s
  | error text => exact objects_setState _ s
  | log text => rfl
  | discovered server => exact objects_startTransport _

theorem objects_drainInternalEvents (s : Session D) :
    s.drainInternalEvents.client.objects = s.client.objects :=
  List.foldlRecOn (motive := fun s' : Session D ↦ s'.client.objects = s.client.objects) _ _ rfl
    fun s' hs notification _ ↦ (objects_handleNotification s' notification).trans hs

theorem objects_greet (now : D) (s : Session D) :
    (s.greet now).client.objects = s.client.objects := by
  have hhello (s : Session D) : s.enqueueHello.client.objects = s.client.objects := by
    rw [enqueueHello]
    split <;> rfl
  rw [greet]
  split
  · dsimp only
    split
    · exact (objects_setState _ _).trans (hhello _)
    · exact hhello _
  · rfl

theorem objects_updateReady (s : Session D) :
    s.updateReady.client.objects = s.client.objects := by
  rw [updateReady]
  split
  · rfl
  · rcases hready : s.isReady with ⟨ready, s₁⟩
    have hasked : s₁.client.objects = s.client.objects := by
      obtain ⟨-, rfl⟩ := Prod.mk.inj hready
      rfl
    rw [← hasked]
    cases ready with
    | true =>
      dsimp only
      split
      · exact objects_setState .ready s₁
      · exact objects_setState .ready s₁
    | false =>
      dsimp only
      split
      · exact objects_setState .synchronizing s₁
      · rfl

/-! ### The mail -/

omit [Double D] in
theorem objects_processDeviceIdMapping (message : DeviceIdMappingMessage) (s : Session D) :
    (s.processDeviceIdMapping message).client.objects =
      s.client.objects.setLocalIdentity (s.client.mapping.apply message).2.localClientNo
        s.client.config.deviceId := by
  rw [processDeviceIdMapping]
  dsimp only
  split <;> split <;> rfl

theorem objects_processControlPayload (decode : Bytes → Option (List Bytes)) (s : Session D)
    (payload : Bytes) :
    (s.processControlPayload decode payload).client.objects =
      (s.controlCall payload).elim s.client.objects s.client.objects.apply := by
  -- every other type is told apart by its code
  have hother {type : MessageType} (htype : peekMessageType payload = type.code)
      (hmapping : type.code ≠ MessageType.deviceIdMapping.code)
      (hownership : type.code ≠ MessageType.objectOwnershipChanged.code) :
      s.controlCall payload = none := by
    rw [controlCall, htype, if_neg hmapping, if_neg hownership]
  rw [processControlPayload]
  split
  · next htype =>
    rw [controlCall, if_pos htype]
    rcases (deserializeDeviceIdMapping.run payload).1 with - | message
    · rfl
    · exact objects_processDeviceIdMapping message s
  split
  · next htype =>
    rw [hother htype (by decide) (by decide)]
    split
    · rfl
    · rw [processRpc]
      split <;> rfl
  split
  · next htype =>
    rw [hother htype (by decide) (by decide)]
    split <;> rfl
  split
  · next htype =>
    rw [hother htype (by decide) (by decide)]
    split <;> rfl
  split
  · next hmapping _ _ _ htype =>
    rw [controlCall, if_neg hmapping, if_pos htype]
    rcases (deserializeObjectOwnershipChanged.run payload).1 with - | message <;> rfl
  · next hmapping _ _ _ hownership =>
    rw [controlCall, if_neg hmapping, if_neg hownership]
    split
    · split <;> rfl
    · rfl

theorem objects_processControlPayloads (decode : Bytes → Option (List Bytes))
    (payloads : List Bytes) (s : Session D) :
    (payloads.foldl (processControlPayload decode) s).client.objects =
      (s.controlCalls decode payloads).foldl ObjectSyncManager.apply s.client.objects := by
  induction payloads generalizing s with
  | nil => rfl
  | cons payload payloads ih =>
    rw [List.foldl_cons, ih, objects_processControlPayload, controlCalls, List.foldl_append]
    rcases s.controlCall payload with - | call <;> rfl

theorem objects_processRoomObjects (payload : Bytes) (s : Session D) :
    (s.processRoomObjects payload).client.objects =
      (roomObjectsCall payload).elim s.client.objects s.client.objects.apply := by
  rw [processRoomObjects, roomObjectsCall]
  rcases (deserializeRoomObjects.run payload).1 with - | message <;> rfl

/-- A tick does the same to the manager whatever it is that sends, and hands over the same. -/
theorem tick_eq {ω : Type} (send : UInt32 → Bytes → ω → ω) (now transformSendRate : D)
    (m : ObjectSyncManager D) (w : ω) :
    m.tick (some send) now transformSendRate w =
      (m.apply (.event (.tick now transformSendRate)),
        (m.handed (.event (.tick now transformSendRate))).foldl
          (fun w sent ↦ send sent.1 sent.2 w) w) := by
  let hand (w : ω) (sent : UInt32 × Bytes) : ω := send sent.1 sent.2 w
  have hloop (interval : D) (pairs : List (UInt32 × ObjectEntry D))
      (objects : OrderedMap UInt32 (ObjectEntry D)) (handed : List (UInt32 × Bytes)) :
      let recorded :=
        pairs.foldl (ObjectSyncManager.tickEntry recordPose m now interval) (objects, handed)
      pairs.foldl (ObjectSyncManager.tickEntry send m now interval)
          (objects, handed.foldl hand w) =
        (recorded.1, recorded.2.foldl hand w) := by
    induction pairs generalizing objects handed with
    | nil => rfl
    | cons pair pairs ih =>
      rw [List.foldl_cons, List.foldl_cons, ObjectSyncManager.tickEntry,
        ObjectSyncManager.tickEntry]
      rcases ObjectSyncManager.duePose m.localClientNo now interval pair.2 with - | pose
      · exact ih objects handed
      · dsimp only
        rw [← ih, recordPose, List.foldl_append]
        rfl
  show _ = ((m.tick (some recordPose) now transformSendRate []).1,
    (m.tick (some recordPose) now transformSendRate []).2.foldl hand w)
  rw [ObjectSyncManager.tick, ObjectSyncManager.tick]
  split
  · rfl
  · have hround := hloop (ObjectSyncManager.sendIntervalOf transformSendRate) m.objects.toList
      m.objects []
    dsimp only [List.foldl_nil] at hround ⊢
    rw [hround]

/-- What the transport is handed in a poll is what the manager hands over in the tick. -/
theorem tickObjects_eq (now : D) (s : Session D) :
    (s.tickObjects now).client.objects =
        s.client.objects.apply (.event (.tick now s.client.config.transformSendRate)) ∧
      (s.tickObjects now).shared =
        (s.client.objects.handed (.event (.tick now s.client.config.transformSendRate))).foldl
          (fun w sent ↦ w.setLatestObjectTransform sent.1 sent.2) s.shared := by
  rw [tickObjects, tick_eq Shared.setLatestObjectTransform]
  exact ⟨rfl, rfl⟩

end Parts

section Poll

variable [DoubleTrig D]

/-- What the mail of a poll makes of the object manager. -/
def mailCalls (decode : Bytes → Option (List Bytes)) (mail : Shared.Mail) (s : Session D) :
    List (ObjectCall D) :=
  (mail.roomPose.elim s s.processRoomPose).controlCalls decode mail.control ++
    (mail.roomObjects.bind roomObjectsCall).toList

theorem objects_processRoomPose (payload : Bytes) (s : Session D) :
    (s.processRoomPose payload).client.objects = s.client.objects := by
  rw [processRoomPose]
  split
  · rfl
  · split <;> rfl

theorem objects_processMail (decode : Bytes → Option (List Bytes)) (mail : Shared.Mail)
    (s : Session D) :
    (s.processMail decode mail).client.objects =
      (s.mailCalls decode mail).foldl ObjectSyncManager.apply s.client.objects := by
  let posed := mail.roomPose.elim s s.processRoomPose
  have hposed : posed.client.objects = s.client.objects := by
    dsimp only [posed]
    rcases mail.roomPose with - | payload
    · rfl
    · exact objects_processRoomPose payload s
  let told := mail.control.foldl (processControlPayload decode) posed
  have htold : told.client.objects =
      (posed.controlCalls decode mail.control).foldl ObjectSyncManager.apply s.client.objects := by
    rw [← hposed]
    exact objects_processControlPayloads decode mail.control posed
  have hmail : s.processMail decode mail = mail.roomObjects.elim told told.processRoomObjects := by
    rw [processMail]
    rcases hpose : mail.roomPose with - | pose <;>
      rcases mail.roomObjects with - | payload <;> simp only [told, posed, hpose] <;> rfl
  rw [hmail, mailCalls, List.foldl_append, ← htold]
  rcases mail.roomObjects with - | payload
  · rfl
  · refine (objects_processRoomObjects payload told).trans ?_
    rw [Option.bind_some]
    rcases roomObjectsCall (D := D) payload with - | call <;> rfl

/-- The rate of a session is no business of its pose. -/
theorem config_sendLocalPoseIfDue (now : D) (s : Session D) :
    (s.sendLocalPoseIfDue now).client.config = s.client.config ∧
      (s.sendLocalPoseIfDue now).client.objects = s.client.objects := by
  rw [sendLocalPoseIfDue]
  split
  · exact ⟨rfl, rfl⟩
  · dsimp only
    split
    · exact ⟨rfl, rfl⟩
    · split
      · exact ⟨rfl, rfl⟩
      · split <;> exact ⟨rfl, rfl⟩

variable [DoubleText D]

/-- What a poll makes of the object manager. -/
def pollCalls (decode : Bytes → Option (List Bytes)) (now : D) (s : Session D) :
    List (ObjectCall D) :=
  if s.client.state = .disconnected then []
  else
    let greeted := ({ s with events := [] } : Session D).drainInternalEvents.greet now
    mailCalls decode greeted.shared.takeMail.1
        { greeted with shared := greeted.shared.takeMail.2 } ++
      [.event (.tick now s.client.config.transformSendRate)]

theorem objects_poll (decode : Bytes → Option (List Bytes)) (now : D) (s : Session D) :
    (s.poll decode now).2.client.objects =
      (s.pollCalls decode now).foldl ObjectSyncManager.apply s.client.objects := by
  rw [pollCalls]
  split
  · next hstate => rw [poll, if_pos hstate]; rfl
  · next hstate =>
    let greeted := ({ s with events := [] } : Session D).drainInternalEvents.greet now
    have hgreeted : greeted.client.objects = s.client.objects :=
      (objects_greet now _).trans (objects_drainInternalEvents _)
    have hmail : (s.untilPose decode now).client.objects =
        (mailCalls decode greeted.shared.takeMail.1
          { greeted with shared := greeted.shared.takeMail.2 }).foldl ObjectSyncManager.apply
            s.client.objects := by
      rw [← hgreeted]
      exact objects_processMail decode greeted.shared.takeMail.1
        { greeted with shared := greeted.shared.takeMail.2 }
    have hrate : (s.untilPose decode now).client.config.transformSendRate =
        s.client.config.transformSendRate :=
      congrArg PosePart.transformSendRate (posePart_untilPose decode now s)
    obtain ⟨hconfig, hobjects⟩ := config_sendLocalPoseIfDue now (s.untilPose decode now)
    have htick := (tickObjects_eq now ((s.untilPose decode now).sendLocalPoseIfDue now)).1
    rw [hconfig, hobjects, hmail, hrate] at htick
    have htimeout (s : Session D) :
        (s.checkInitialSyncTimeout now).client.objects = s.client.objects := rfl
    rw [poll_eq decode now hstate, afterPose, objects_updateReady, htimeout, htick,
      List.foldl_append, List.foldl_cons, List.foldl_nil]

/-! ### The life of a client -/

/-- What a call of the host makes of the object manager. -/
def hostCalls (decode : Bytes → Option (List Bytes)) (s : Session D) :
    HostCall D → List (ObjectCall D)
  | .poll now => s.pollCalls decode now
  | .registerObject objectId => [.event (.registerObject objectId)]
  | .unregisterObject objectId => [.unregisterObject objectId]
  | .submitObjectPose objectId pose => [.event (.submitLocalPose objectId pose)]
  | _ => []

/-- What a step in the life of a client makes of it. -/
def objectCalls (decode : Bytes → Option (List Bytes)) (s : Session D) :
    LifeStep D → List (ObjectCall D)
  | .connect config _ =>
    if s.client.state ≠ .disconnected ∧ s.client.state ≠ .error then []
    else [.clearRoomScopedState, .setLocalIdentity 0 config.deviceId]
  | .disconnect _ => [.clearRoomScopedState]
  | .session (.network _) => []
  | .session (.call call schedule) =>
    ({ s with shared := { s.shared with schedule := schedule } } : Session D).hostCalls decode call

/-- What a life makes of it. -/
def objectHistory (decode : Bytes → Option (List Bytes)) :
    Session D → List (LifeStep D) → List (ObjectCall D)
  | _, [] => []
  | s, e :: steps => s.objectCalls decode e ++ objectHistory decode (s.live decode e) steps

/-- **One step in the life of a client.** -/
theorem objects_live (decode : Bytes → Option (List Bytes)) (s : Session D) (e : LifeStep D) :
    (s.live decode e).client.objects =
      (s.objectCalls decode e).foldl ObjectSyncManager.apply s.client.objects := by
  cases e with
  | connect config schedule =>
    rw [live, objectCalls, connect]
    dsimp only
    split
    · rfl
    · split
      · exact objects_startTransport _
      · split
        · rfl
        · split <;> rfl
  | disconnect schedule => rfl
  | session e =>
    cases e with
    | network n => rfl
    | call call schedule =>
      cases call with
      | poll now => exact objects_poll decode now _
      | registerObject objectId =>
        show (ObjectSyncManager.registerObject _ objectId _ _).2.1 =
          (ObjectSyncManager.registerObject _ objectId _ _).2.1
        rw [ObjectSyncManager.registerObject, ObjectSyncManager.registerObject]
        split <;> rfl
      | _ => rfl

theorem objects_life (decode : Bytes → Option (List Bytes)) (s : Session D)
    (steps : List (LifeStep D)) :
    (steps.foldl (live decode) s).client.objects =
      (s.objectHistory decode steps).foldl ObjectSyncManager.apply s.client.objects := by
  induction steps generalizing s with
  | nil => rfl
  | cons e steps ih =>
    rw [List.foldl_cons, ih, objects_live, objectHistory, List.foldl_append]

end Poll

end Session

/-- **The schedule of the objects**, in every life of a client: its object manager gets the calls of
the life's history, and every object is published by its schedule. The tick of a poll hands the
transport what the manager hands over. -/
theorem object_schedule {D : Type} [DoubleTrig D] [DoubleText D]
    (decode : Bytes → Option (List Bytes)) (clock : D) (steps : List (LifeStep D)) :
    let client : Session D := Session.new clock
    let calls := client.objectHistory decode steps
    (steps.foldl (Session.live decode) client).client.objects =
        calls.foldl ObjectSyncManager.apply client.client.objects ∧
      (∀ id, ObjectSchedule id client.client.objects calls) ∧
      ∀ (s : Session D) (now : D), (s.tickObjects now).shared =
        (s.client.objects.handed (.event (.tick now s.client.config.transformSendRate))).foldl
          (fun w sent ↦ w.setLatestObjectTransform sent.1 sent.2) s.shared := by
  intro client calls
  refine ⟨client.objects_life decode steps, fun id ↦ ?_,
    fun s now ↦ (Session.tickObjects_eq now s).2⟩
  refine ObjectSyncManager.objectSchedule ?_ calls
  exact Std.ExtTreeMap.getElem?_empty

end StylyNetSync
