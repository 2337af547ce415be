import StylyNetSync.Core.OwnPresence
import StylyNetSync.Core.OwnershipPeriod

/-!
# Ownership events and the owners they tell of

A host that follows the ownership events of its objects keeps a copy of the owners. The copy is true
if every event names the owner that was recorded before it as the previous one, and another owner
as the new one.

Two lanes report ownership. A room-objects broadcast is compared with the recorded owners, and only
what differs is reported. An ownership message is passed on as it is: it names a previous owner of
its own, and it is reported even if the owner it names is recorded already. The events of a poll are
therefore true exactly if its ownership messages are (`ownership_exact_iff`); whatever the
broadcasts say, they report nothing but transitions.
-/

namespace StylyNetSync

/-! ### Transitions -/

/-- The owners of the registered objects, after a change was applied to them. -/
def applyChange (owners : UInt32 → Option ℤ) (change : OwnershipChange) : UInt32 → Option ℤ :=
  fun id ↦
    if change.objectId = id then (owners id).map fun _ ↦ change.newOwnerClientNo else owners id

/-- The change leads a registered object from its recorded owner to another one. -/
def IsTransition (owners : UInt32 → Option ℤ) (change : OwnershipChange) : Prop :=
  ∀ owner, owners change.objectId = some owner →
    change.previousOwnerClientNo = owner ∧ change.newOwnerClientNo ≠ owner

/-- The ownership change that an event tells of. -/
def Event.ownership : Event → Option OwnershipChange
  | .objectOwnershipChanged change => some change
  | _ => none

/-- The ownership change that a control payload tells of. -/
def ownershipOf (payload : Bytes) : Option OwnershipChange :=
  if peekMessageType payload = MessageType.objectOwnershipChanged.code then
    (deserializeObjectOwnershipChanged.run payload).1.map fun message ↦
      { objectId := message.objectId
        newOwnerClientNo := message.newOwnerClientNo.toNat
        previousOwnerClientNo := message.previousOwnerClientNo.toNat }
  else none

namespace ObjectSyncManager

variable {D : Type}

/-- The owners of the registered objects. -/
def recordedOwners (m : ObjectSyncManager D) (id : UInt32) : Option ℤ :=
  m.objects[id]?.map fun entry ↦ entry.state.ownerClientNo

theorem recordedOwners_eq (m : ObjectSyncManager D) (id : UInt32) :
    m.recordedOwners id = (m.heldOf id).map Prod.fst := by
  rw [recordedOwners, heldOf, Option.map_map]
  rfl

/-- What is told of an owner replaces it. -/
theorem map_fst_tell (owner : ℤ) (held : Option (ℤ × Option (PoseTransform D))) :
    (held.map (tell [owner])).map Prod.fst = (held.map Prod.fst).map fun _ ↦ owner := by
  rcases held with - | held <;> rfl

theorem handleOwnershipChanged_snd [Double D] (message : ObjectOwnershipChangedMessage)
    (m : ObjectSyncManager D) :
    (m.handleOwnershipChanged message).2 =
      ⟨message.objectId, message.newOwnerClientNo.toNat, message.previousOwnerClientNo.toNat⟩ := by
  rw [handleOwnershipChanged]
  dsimp only
  split <;> rfl

theorem recordedOwners_handleOwnershipChanged [Double D] (message : ObjectOwnershipChangedMessage)
    (m : ObjectSyncManager D) :
    (m.handleOwnershipChanged message).1.recordedOwners =
      applyChange m.recordedOwners (m.handleOwnershipChanged message).2 := by
  funext id
  rw [handleOwnershipChanged_snd, applyChange, recordedOwners_eq, recordedOwners_eq,
    heldOf_handleOwnershipChanged, ObjectEvent.ownersTold]
  split
  · exact map_fst_tell _ _
  · rw [map_tell_nil]

/-- A tick sends poses of objects and leaves their owners alone. -/
theorem recordedOwners_tick [Double D] {ω : Type} (send : Option (UInt32 → Bytes → ω → ω))
    (now transformSendRate : D) (m : ObjectSyncManager D) (w : ω) :
    (m.tick send now transformSendRate w).1.recordedOwners = m.recordedOwners := by
  rcases send with - | send
  · rw [tick.eq_def]
    split <;> rfl
  · rw [tick.eq_def]
    split
    · rfl
    · funext id
      refine List.foldlRecOn
        (motive := fun acc : OrderedMap UInt32 (ObjectEntry D) × ω ↦
          (acc.1[id]?.map fun entry ↦ entry.state.ownerClientNo) = m.recordedOwners id)
        m.objects.toList _ rfl fun acc hacc pair hpair ↦ ?_
      have hentry := Std.ExtTreeMap.mem_toList_iff_getElem?_eq_some.mp hpair
      rw [tickEntry]
      split
      · exact hacc
      · dsimp only
        rw [OrderedMap.get?_insert]
        split
        · next hid =>
          rw [← hid, recordedOwners, hentry]
          rfl
        · exact hacc

/-- **One object of a broadcast**: it is reported if its owner changes, and only then. -/
theorem handleRoomObject_transition (broadcastTime : UInt64)
    (acc : ObjectSyncManager D × List OwnershipChange) (state : RoomObjectState D) :
    ∃ changes, (handleRoomObject broadcastTime acc state).2 = acc.2 ++ changes ∧
      Along applyChange IsTransition acc.1.recordedOwners changes ∧
      (handleRoomObject broadcastTime acc state).1.recordedOwners =
        changes.foldl applyChange acc.1.recordedOwners := by
  have htold : (handleRoomObject broadcastTime acc state).1.recordedOwners =
      applyChange acc.1.recordedOwners ⟨state.objectId, state.ownerClientNo.toNat, 0⟩ := by
    funext id
    rw [applyChange, recordedOwners_eq, recordedOwners_eq, heldOf_handleRoomObject]
    split
    · exact map_fst_tell _ _
    · rw [map_tell_nil]
  rw [htold, handleRoomObject]
  rcases hentry : acc.1.objects[state.objectId]? with - | entry
  · refine ⟨[], (List.append_nil _).symm, trivial, ?_⟩
    funext id
    rw [applyChange]
    split
    · next hid =>
      obtain rfl := hid
      rw [List.foldl_nil, recordedOwners, hentry]
      rfl
    · rfl
  · have hrecorded : acc.1.recordedOwners state.objectId = some entry.state.ownerClientNo := by
      rw [recordedOwners, hentry]
      rfl
    dsimp only
    split
    · next hdiffers =>
      refine ⟨[⟨state.objectId, state.ownerClientNo.toNat, entry.state.ownerClientNo⟩], rfl,
        ⟨fun owner howner ↦ ?_, trivial⟩, rfl⟩
      obtain rfl := Option.some.inj (hrecorded.symm.trans howner)
      exact ⟨rfl, Ne.symm hdiffers⟩
    · next hsame =>
      refine ⟨[], (List.append_nil _).symm, trivial, ?_⟩
      funext id
      rw [applyChange]
      split
      · next hid =>
        obtain rfl := hid
        rw [List.foldl_nil, hrecorded, ← not_not.mp hsame]
        rfl
      · rfl

/-- **A broadcast reports transitions**, and all of them. -/
theorem handleRoomObjects_transitions (message : RoomObjectsMessage D) (m : ObjectSyncManager D) :
    Along applyChange IsTransition m.recordedOwners (m.handleRoomObjects message).2 ∧
      (m.handleRoomObjects message).1.recordedOwners =
        (m.handleRoomObjects message).2.foldl applyChange m.recordedOwners := by
  refine List.foldlRecOn
    (motive := fun acc : ObjectSyncManager D × List OwnershipChange ↦
      Along applyChange IsTransition m.recordedOwners acc.2 ∧
        acc.1.recordedOwners = acc.2.foldl applyChange m.recordedOwners)
    message.objects _ ⟨trivial, rfl⟩ fun acc hacc state _ ↦ ?_
  obtain ⟨changes, hchanges, htransitions, hrecorded⟩ :=
    handleRoomObject_transition message.broadcastTime acc state
  rw [hacc.2] at htransitions hrecorded
  rw [hchanges, hrecorded, List.foldl_append]
  exact ⟨hacc.1.append htransitions, rfl⟩

end ObjectSyncManager

/-! ### The parts of a poll -/

namespace Session

/-- The recorded owners, and what the poll under way reports of them. -/
def ownership {D : Type} (s : Session D) : (UInt32 → Option ℤ) × List OwnershipChange :=
  (s.client.objects.recordedOwners, s.events.filterMap Event.ownership)

section Parts

variable {D : Type}

theorem ownership_of_events {s s' : Session D} {more : List Event}
    (hobjects : s'.client.objects.objects = s.client.objects.objects)
    (hevents : s'.events = s.events ++ more) (hmore : ∀ event ∈ more, event.ownership = none) :
    s'.ownership = s.ownership := by
  have hrecorded : s'.client.objects.recordedOwners = s.client.objects.recordedOwners := by
    funext id
    rw [ObjectSyncManager.recordedOwners, ObjectSyncManager.recordedOwners, hobjects]
  rw [ownership, ownership, hrecorded, hevents, List.filterMap_append,
    List.filterMap_eq_nil_iff.mpr hmore, List.append_nil]

theorem ownership_emit {event : Event} (h : event.ownership = none) (s : Session D) :
    (s.emit event).ownership = s.ownership :=
  ownership_of_events rfl rfl fun e he ↦ by rwa [List.mem_singleton.mp he]

theorem ownership_setState (state : ConnectionState) (s : Session D) :
    (s.setState state).ownership = s.ownership := by
  rw [setState]
  split
  · rfl
  · exact ownership_emit (s := { s with client := { s.client with state := state } }) rfl

theorem ownership_processDeviceIdMapping (message : DeviceIdMappingMessage) (s : Session D) :
    (s.processDeviceIdMapping message).ownership = s.ownership := by
  rw [processDeviceIdMapping]
  dsimp only
  split
  · refine (ownership_emit rfl _).trans ?_
    split
    · rfl
    · exact ownership_emit rfl _
  · split
    · rfl
    · exact ownership_emit rfl _

variable [Double D]

theorem ownership_startTransport (s : Session D) : s.startTransport.ownership = s.ownership := by
  rw [startTransport]
  dsimp only
  split <;> rfl

theorem ownership_handleNotification (s : Session D) (notification : Notification) :
    (s.handleNotification notification).ownership = s.ownership := by
  cases notification with
  | connected => exact ownership_setState .connected s
  | error text => exact (ownership_emit rfl _).trans (ownership_setState .error s)
  | log text => exact ownership_emit rfl s
  | discovered server => exact (ownership_startTransport _).trans (ownership_emit rfl _)

theorem ownership_drainInternalEvents (s : Session D) :
    s.drainInternalEvents.ownership = s.ownership :=
  List.foldlRecOn (motive := fun s' : Session D ↦ s'.ownership = s.ownership) _ _ rfl
    fun s' hs notification _ ↦ (ownership_handleNotification s' notification).trans hs

theorem ownership_greet (now : D) (s : Session D) : (s.greet now).ownership = s.ownership := by
  have hhello (s : Session D) : s.enqueueHello.ownership = s.ownership := by
    rw [enqueueHello]
    split <;> rfl
  rw [greet]
  split
  · dsimp only
    split
    · exact (ownership_setState _ _).trans (hhello _)
    · exact hhello _
  · rfl

theorem ownership_updateReady (s : Session D) : s.updateReady.ownership = s.ownership := by
  rw [updateReady]
  split
  · rfl
  · rcases hready : s.isReady with ⟨ready, s₁⟩
    have hasked : s₁.ownership = s.ownership := by
      obtain ⟨-, rfl⟩ := Prod.mk.inj hready
      rfl
    rw [← hasked]
    cases ready with
    | true =>
      dsimp only
      split
      · exact ownership_setState .ready s₁
      · exact (ownership_emit rfl _).trans (ownership_setState .ready s₁)
    | false =>
      dsimp only
      split
      · exact ownership_setState .synchronizing s₁
      · rfl

theorem ownership_tickObjects (now : D) (s : Session D) :
    (s.tickObjects now).ownership = s.ownership :=
  Prod.ext (ObjectSyncManager.recordedOwners_tick (some Shared.setLatestObjectTransform) now
    s.client.config.transformSendRate s.client.objects s.shared) rfl

/-! ### The mail -/

/-- An ownership message is recorded and reported as it is. -/
theorem ownership_processOwnershipChanged (message : ObjectOwnershipChangedMessage)
    (s : Session D) :
    (s.processOwnershipChanged message).ownership =
      (applyChange s.ownership.1 (s.client.objects.handleOwnershipChanged message).2,
        s.ownership.2 ++ [(s.client.objects.handleOwnershipChanged message).2]) := by
  refine Prod.ext ?_ ?_
  · exact ObjectSyncManager.recordedOwners_handleOwnershipChanged message s.client.objects
  · exact List.filterMap_append

/-- A control payload: what it tells of an owner is recorded and reported, and nothing else. -/
theorem ownership_processControlPayload (decode : Bytes → Option (List Bytes)) (s : Session D)
    (payload : Bytes) :
    (s.processControlPayload decode payload).ownership =
      ((ownershipOf payload).toList.foldl applyChange s.ownership.1,
        s.ownership.2 ++ (ownershipOf payload).toList) := by
  -- every other type is told apart by its code
  have hother {s' : Session D} (htype : ownershipOf payload = none)
      (hsame : s'.ownership = s.ownership) :
      s'.ownership = ((ownershipOf payload).toList.foldl applyChange s.ownership.1,
        s.ownership.2 ++ (ownershipOf payload).toList) := by
    rw [htype, hsame, Option.toList_none, List.append_nil]
    rfl
  have hnone {type : MessageType} (htype : peekMessageType payload = type.code)
      (hne : type.code ≠ MessageType.objectOwnershipChanged.code) : ownershipOf payload = none := by
    rw [ownershipOf, htype, if_neg hne]
  rw [processControlPayload]
  split
  · next htype =>
    refine hother (hnone htype (by decide)) ?_
    split
    · rfl
    · exact ownership_processDeviceIdMapping _ s
  split
  · next htype =>
    refine hother (hnone htype (by decide)) ?_
    split
    · rfl
    · rw [processRpc]
      split
      · exact ownership_emit rfl s
      · exact ownership_emit rfl _
  split
  · next htype =>
    refine hother (hnone htype (by decide)) ?_
    split
    · rfl
    · refine ownership_of_events rfl rfl fun event hevent ↦ ?_
      obtain ⟨change, -, rfl⟩ := List.mem_map.mp hevent
      rfl
  split
  · next htype =>
    refine hother (hnone htype (by decide)) ?_
    split
    · rfl
    · refine ownership_of_events rfl rfl fun event hevent ↦ ?_
      obtain ⟨change, -, rfl⟩ := List.mem_map.mp hevent
      rfl
  split
  · next htype =>
    rcases hmessage : (deserializeObjectOwnershipChanged.run payload).1 with - | message
    · refine hother ?_ rfl
      rw [ownershipOf, if_pos htype, hmessage]
      rfl
    · have hchange : ownershipOf payload =
          some (s.client.objects.handleOwnershipChanged message).2 := by
        rw [ownershipOf, if_pos htype, hmessage, Option.map_some,
          ObjectSyncManager.handleOwnershipChanged_snd]
      rw [hchange]
      exact ownership_processOwnershipChanged message s
  · next htype =>
    refine hother (by rw [ownershipOf, if_neg htype]) ?_
    split
    · split
      · rfl
      · exact ownership_emit rfl s
    · rfl

theorem ownership_processControlPayloads (decode : Bytes → Option (List Bytes))
    (payloads : List Bytes) (s : Session D) :
    (payloads.foldl (processControlPayload decode) s).ownership =
      ((payloads.filterMap ownershipOf).foldl applyChange s.ownership.1,
        s.ownership.2 ++ payloads.filterMap ownershipOf) := by
  induction payloads generalizing s with
  | nil => rw [List.filterMap_nil, List.append_nil]; rfl
  | cons payload rest ih =>
    have hsplit : (payload :: rest).filterMap ownershipOf =
        (ownershipOf payload).toList ++ rest.filterMap ownershipOf := by
      rw [List.filterMap_cons]
      rcases ownershipOf payload with - | change <;> rfl
    rw [List.foldl_cons, ih, ownership_processControlPayload, hsplit, List.foldl_append,
      List.append_assoc]

/-- A broadcast that decodes is recorded and reported transition by transition. -/
theorem ownership_processRoomObjects (payload : Bytes) (s : Session D) :
    ∃ changes, Along applyChange IsTransition s.ownership.1 changes ∧
      (s.processRoomObjects payload).ownership =
        (changes.foldl applyChange s.ownership.1, s.ownership.2 ++ changes) := by
  rw [processRoomObjects]
  split
  · exact ⟨[], trivial, Prod.ext rfl (List.append_nil _).symm⟩
  · next message _ =>
    obtain ⟨htransitions, hrecorded⟩ :=
      ObjectSyncManager.handleRoomObjects_transitions message s.client.objects
    refine ⟨_, htransitions, Prod.ext hrecorded ?_⟩
    show (s.events ++ _).filterMap Event.ownership = s.events.filterMap Event.ownership ++ _
    rw [List.filterMap_append, List.filterMap_map]
    exact congrArg _ (List.filterMap_some)

end Parts

/-! ### The poll -/

section Poll

variable {D : Type} [DoubleTrig D]

theorem ownership_processRoomPose (payload : Bytes) (s : Session D) :
    (s.processRoomPose payload).ownership = s.ownership := by
  rw [processRoomPose]
  split
  · rfl
  · split
    · rfl
    · next message _ _ =>
      refine ownership_of_events rfl (List.append_assoc ..) fun event hevent ↦ ?_
      rcases List.mem_append.mp hevent with hmem | hmem
      · obtain ⟨clientNo, -, rfl⟩ := List.mem_map.mp hmem
        rfl
      · obtain ⟨clientNo, -, rfl⟩ := List.mem_map.mp hmem
        rfl

theorem ownership_sendLocalPoseIfDue (now : D) (s : Session D) :
    (s.sendLocalPoseIfDue now).ownership = s.ownership := by
  rw [sendLocalPoseIfDue]
  split
  · rfl
  · dsimp only
    split
    · rfl
    · split
      · rfl
      · split <;> rfl

/-- The mail of a poll: the control messages as they are, then transitions. -/
theorem ownership_processMail (decode : Bytes → Option (List Bytes)) (mail : Shared.Mail)
    (s : Session D) :
    ∃ changes,
      Along applyChange IsTransition
        ((mail.control.filterMap ownershipOf).foldl applyChange s.ownership.1) changes ∧
      (s.processMail decode mail).ownership =
        ((mail.control.filterMap ownershipOf ++ changes).foldl applyChange s.ownership.1,
          s.ownership.2 ++ (mail.control.filterMap ownershipOf ++ changes)) := by
  let posed := mail.roomPose.elim s s.processRoomPose
  have hposed : posed.ownership = s.ownership := by
    dsimp only [posed]
    rcases mail.roomPose with - | payload
    · rfl
    · exact ownership_processRoomPose payload s
  let told := mail.control.foldl (processControlPayload decode) posed
  have htold : told.ownership = ((mail.control.filterMap ownershipOf).foldl applyChange
      s.ownership.1, s.ownership.2 ++ mail.control.filterMap ownershipOf) := by
    rw [← hposed]
    exact ownership_processControlPayloads decode mail.control posed
  have hmail : s.processMail decode mail = mail.roomObjects.elim told told.processRoomObjects := by
    rw [processMail]
    rcases hpose : mail.roomPose with - | pose <;>
      rcases mail.roomObjects with - | payload <;> simp only [told, posed, hpose] <;> rfl
  rw [hmail]
  rcases mail.roomObjects with - | payload
  · refine ⟨[], trivial, ?_⟩
    rw [List.append_nil]
    exact htold
  · obtain ⟨changes, htransitions, hrecorded⟩ := told.ownership_processRoomObjects payload
    rw [htold] at htransitions hrecorded
    refine ⟨changes, htransitions, ?_⟩
    rw [List.foldl_append, ← List.append_assoc]
    exact hrecorded

variable [DoubleText D]

theorem ownership_flush (now : D) (s : Session D) : (s.flush now).ownership = s.ownership := by
  have htimeout (s : Session D) : (s.checkInitialSyncTimeout now).ownership = s.ownership := rfl
  have hcalls (s : Session D) : (s.flushRpc now).ownership = s.ownership := rfl
  have hvariables (s : Session D) : (s.tickVariables now).ownership = s.ownership := rfl
  rw [flush, htimeout, ownership_tickObjects, ownership_sendLocalPoseIfDue, hcalls, hvariables]

/-- **What a poll reports of the owners**: its ownership messages as they are, then the transitions
of the broadcast. -/
theorem ownership_poll (decode : Bytes → Option (List Bytes)) (now : D) {s : Session D}
    (hstate : s.client.state ≠ .disconnected) :
    ∃ changes,
      Along applyChange IsTransition
        (((s.mailOfPoll now).control.filterMap ownershipOf).foldl applyChange
          s.client.objects.recordedOwners) changes ∧
      (s.poll decode now).1.filterMap Event.ownership =
        (s.mailOfPoll now).control.filterMap ownershipOf ++ changes ∧
      (s.poll decode now).2.client.objects.recordedOwners =
        ((s.mailOfPoll now).control.filterMap ownershipOf ++ changes).foldl applyChange
          s.client.objects.recordedOwners := by
  let s₀ := ({ s with events := [] } : Session D).drainInternalEvents.greet now
  have hbefore : s₀.ownership = (s.client.objects.recordedOwners, []) :=
    (ownership_greet now _).trans (ownership_drainInternalEvents _)
  have hpoll : s.poll decode now =
      (((s₀.drainInbox decode).flush now).updateReady.events,
        ((s₀.drainInbox decode).flush now).updateReady) := by
    rw [poll, if_neg hstate]
  have hafter : ((s₀.drainInbox decode).flush now).updateReady.ownership =
      (s₀.drainInbox decode).ownership :=
    (ownership_updateReady _).trans (ownership_flush now _)
  obtain ⟨changes, htransitions, hmail⟩ := ownership_processMail decode (s.mailOfPoll now)
    { s₀ with shared := s₀.shared.takeMail.2 }
  have hsame : ({ s₀ with shared := s₀.shared.takeMail.2 } : Session D).ownership =
      (s.client.objects.recordedOwners, []) := hbefore
  rw [hsame] at htransitions hmail
  rw [hpoll]
  generalize ((s₀.drainInbox decode).flush now).updateReady = s₁ at hafter ⊢
  obtain ⟨hrecorded, hreported⟩ := Prod.mk.inj (hafter.trans hmail)
  exact ⟨changes, htransitions, hreported, hrecorded⟩

/-! ### Runs -/

/-- What a step of a session reports of the owners of registered objects: each event leads from the
owner recorded before it to another one, and together they lead to the owners recorded after it. -/
def OwnershipExact (decode : Bytes → Option (List Bytes)) (s : Session D) : SessionStep D → Prop
  | .call (.poll now) schedule =>
    Along applyChange IsTransition s.client.objects.recordedOwners
      ((s.returned decode (.call (.poll now) schedule)).filterMap Event.ownership) ∧
    (s.step decode (.call (.poll now) schedule)).client.objects.recordedOwners =
      ((s.returned decode (.call (.poll now) schedule)).filterMap Event.ownership).foldl applyChange
        s.client.objects.recordedOwners
  | _ => True

/-- The ownership messages that a poll takes are true of the recorded owners, one after the other:
each names the owner that is recorded as the previous one, and another one as the new one. -/
def TruthfulMail (s : Session D) : SessionStep D → Prop
  | .call (.poll now) schedule =>
    s.client.state ≠ .disconnected →
      Along applyChange IsTransition s.client.objects.recordedOwners
        ((({ s with shared := { s.shared with schedule := schedule } } : Session D).mailOfPoll
          now).control.filterMap ownershipOf)
  | _ => True

/-- **One step.** -/
theorem ownershipExact_iff (decode : Bytes → Option (List Bytes)) (s : Session D)
    (e : SessionStep D) : s.OwnershipExact decode e ↔ s.TruthfulMail e := by
  cases e with
  | network n => exact Iff.rfl
  | call call schedule =>
    cases call with
    | poll now =>
      let called : Session D := { s with shared := { s.shared with schedule := schedule } }
      show Along applyChange IsTransition s.client.objects.recordedOwners
          ((called.poll decode now).1.filterMap Event.ownership) ∧
        (called.poll decode now).2.client.objects.recordedOwners =
          ((called.poll decode now).1.filterMap Event.ownership).foldl applyChange
            s.client.objects.recordedOwners ↔
        (s.client.state ≠ .disconnected → Along applyChange IsTransition
          s.client.objects.recordedOwners ((called.mailOfPoll now).control.filterMap ownershipOf))
      by_cases hstate : s.client.state = .disconnected
      · rw [poll_of_disconnected decode now (s := called) hstate]
        exact ⟨fun _ h ↦ absurd hstate h, fun _ ↦ ⟨trivial, rfl⟩⟩
      · obtain ⟨changes, htransitions, hreported, hrecorded⟩ :=
          ownership_poll decode now (s := called) hstate
        rw [hreported, hrecorded]
        constructor
        · exact fun h _ ↦ h.1.left
        · exact fun h ↦ ⟨(h hstate).append htransitions, rfl⟩
    | _ => exact Iff.rfl

/-- **Ownership events describe transitions** in a run if and only if the ownership messages of
every poll of it are true of the owners recorded before them, whatever the broadcasts say. -/
theorem ownership_exact_iff (decode : Bytes → Option (List Bytes)) (s : Session D)
    (steps : List (SessionStep D)) :
    Along (step decode) (fun s e ↦ s.OwnershipExact decode e) s steps ↔
      Along (step decode) TruthfulMail s steps :=
  Along.congr_of_invariant (I := fun _ ↦ True) (fun _ _ _ ↦ trivial)
    (fun s e _ ↦ s.ownershipExact_iff decode e) trivial

/-- An event that names another previous owner than the recorded one. -/
theorem not_ownershipExact {decode : Bytes → Option (List Bytes)} {s : Session D} {now : D}
    {schedule : List (List (NetworkStep D))} {c : OwnershipChange} {o : ℤ}
    (hrecorded : s.client.objects.recordedOwners c.objectId = some o)
    (hreported : (s.returned decode (.call (.poll now) schedule)).filterMap Event.ownership = [c])
    (hprevious : c.previousOwnerClientNo ≠ o) :
    ¬s.OwnershipExact decode (.call (.poll now) schedule) := by
  rintro ⟨htransition, -⟩
  rw [hreported] at htransition
  exact hprevious (htransition.1 o hrecorded).1

end Poll

/-- A broadcast tells the owner of an object before the snapshot of the ownership messages, which
names nobody as the previous owner, arrives. -/
def broadcastBeforeSnapshot : List (SessionStep ℚ) :=
  [.call (.registerObject 7) [], .network (.payload .roomObjects broadcast), .call (.poll 0) [],
    .network (.payload .control snapshot), .call (.poll 1) []]
where
  broadcast : Bytes :=
    serializeRoomObjects
      { broadcastTime := 0
        objects := [{ objectId := 7, ownerClientNo := 2, poseSeq := 0, poseTime := 0,
                      position := (Vec3.zero : Vec3 ℚ), rotation := Quat.identity }] }
  snapshot : Bytes := serializeObjectOwnershipChanged ⟨7, 2, 0⟩

/-- **An event that is no transition.** -/
theorem ownership_reported_twice :
    ¬Along (step fun _ ↦ none) (fun s e ↦ s.OwnershipExact (fun _ ↦ none) e) enteredRoom
      broadcastBeforeSnapshot := by
  rintro ⟨-, -, -, -, hlast, -⟩
  refine not_ownershipExact (c := ⟨7, 2, 0⟩) (o := 2) ?_ ?_ (by decide) hlast
  · decide +kernel
  · decide +kernel

end Session

end StylyNetSync
