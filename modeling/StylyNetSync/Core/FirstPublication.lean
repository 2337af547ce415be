import StylyNetSync.Core.OwnershipPeriod

/-!
# The first pose of an ownership period

An object of another owner may keep a send record from an earlier ownership period: when its pose
was last sent, and which one. An ownership message that makes this client the owner forgets the
record, so that the first pose is not held back by it. A room-objects broadcast that makes this
client the owner leaves the record as it is, and the first tick is held back as if the earlier
period had never ended.

`first_published_iff` says exactly when the first tick publishes, for either path: after a message
if its time lies a send interval after the beginning of time, after a broadcast only if neither the
send interval nor the unchanged pose of the earlier period speaks against it.
-/

namespace StylyNetSync

/-- What decides whether the pose of an owned object is due. -/
def ObjectEntry.sendRecord {D : Type} (entry : ObjectEntry D) :
    Option (PoseTransform D) × D × Option (PoseTransform D) :=
  (entry.localPose, entry.lastSendTime, entry.lastSentPose)

namespace ObjectSyncManager

variable {D : Type}

theorem ownerOf_eq {m : ObjectSyncManager D} {objectId : UInt32} {entry : ObjectEntry D}
    (hentry : m.objects[objectId]? = some entry) :
    m.ownerOf objectId = entry.state.ownerClientNo := by
  rw [ownerOf, hentry]
  rfl

theorem ownerOf_eq_heldOf (m : ObjectSyncManager D) (objectId : UInt32) :
    m.ownerOf objectId = ((m.heldOf objectId).map Prod.fst).getD 0 := by
  rw [ownerOf, heldOf, Option.map_map]
  rfl

/-! ### The send record -/

theorem sendRecord_handleRoomObject (broadcastTime : UInt64)
    (acc : ObjectSyncManager D × List OwnershipChange) (state : RoomObjectState D) (id : UInt32) :
    (handleRoomObject broadcastTime acc state).1.objects[id]?.map ObjectEntry.sendRecord =
      acc.1.objects[id]?.map ObjectEntry.sendRecord := by
  rw [handleRoomObject]
  split
  · rfl
  · next entry hentry =>
    dsimp only
    rw [OrderedMap.get?_insert]
    split
    · next hid =>
      rw [← hid, hentry]
      rfl
    · rfl

/-- A broadcast forgets no send record. -/
theorem sendRecord_handleRoomObjects (message : RoomObjectsMessage D) (m : ObjectSyncManager D)
    (id : UInt32) :
    (m.handleRoomObjects message).1.objects[id]?.map ObjectEntry.sendRecord =
      m.objects[id]?.map ObjectEntry.sendRecord :=
  List.foldlRecOn
    (motive := fun acc : ObjectSyncManager D × List OwnershipChange ↦
      acc.1.objects[id]?.map ObjectEntry.sendRecord = m.objects[id]?.map ObjectEntry.sendRecord)
    message.objects _ rfl fun acc hacc state _ ↦
      (sendRecord_handleRoomObject message.broadcastTime acc state id).trans hacc

variable [Double D]

/-- An ownership message that makes this client the owner does. -/
theorem sendRecord_handleOwnershipChanged {m : ObjectSyncManager D}
    {message : ObjectOwnershipChangedMessage} {entry : ObjectEntry D}
    (hentry : m.objects[message.objectId]? = some entry) (hlocal : m.localClientNo ≠ 0)
    (hnew : (message.newOwnerClientNo.toNat : ℤ) = m.localClientNo) :
    (m.handleOwnershipChanged message).1.objects[message.objectId]?.map ObjectEntry.sendRecord =
      some (entry.localPose, kNeverSent, none) := by
  rw [handleOwnershipChanged]
  dsimp only
  rw [hentry]
  dsimp only
  rw [if_pos ⟨hnew, hlocal⟩, OrderedMap.get?_insert, if_pos rfl]
  rfl

/-- Neither the send interval nor an unchanged pose holds the pose back. -/
def Unsuppressed (now transformSendRate : D) (pose : PoseTransform D) (lastSendTime : D)
    (lastSentPose : Option (PoseTransform D)) : Prop :=
  Double.lt (now - lastSendTime) (sendIntervalOf transformSendRate) = false ∧
    ¬(lastSentPose.any (posesEqual pose) = true ∧
      Double.lt (now - lastSendTime) kHeartbeatIntervalSeconds = true)

/-- The pose of an owned object is due unless something holds it back. -/
theorem duePose_isSome_iff {localClientNo : ℤ} {now transformSendRate : D} {entry : ObjectEntry D}
    {pose : PoseTransform D} (hheld : entry.held = (localClientNo, some pose)) :
    duePose localClientNo now (sendIntervalOf transformSendRate) entry = some pose ↔
      Unsuppressed now transformSendRate pose entry.lastSendTime entry.lastSentPose := by
  obtain ⟨howner, hpose⟩ := Prod.mk.inj hheld
  rw [duePose, if_neg (not_not.mpr howner), hpose, Unsuppressed]
  dsimp only
  split
  · next hearly => simp [hearly]
  · next hlate =>
    rw [Bool.not_eq_true] at hlate
    split
    · next hunchanged => simpa [hlate] using hunchanged
    · next hchanged =>
      rw [Bool.and_eq_true] at hchanged
      exact ⟨fun _ ↦ ⟨hlate, hchanged⟩, fun _ ↦ rfl⟩

/-- **When a tick publishes the pose of an owned object.** -/
theorem published_iff {m : ObjectSyncManager D} {id : UInt32} {entry : ObjectEntry D}
    {pose : PoseTransform D} (now transformSendRate : D) (hlocal : m.localClientNo ≠ 0)
    (hentry : m.objects[id]? = some entry) (hheld : entry.held = (m.localClientNo, some pose)) :
    (∃ seq, (id, posePayload m.localDeviceId id seq pose) ∈
      (m.tick (some recordPose) now transformSendRate []).2) ↔
      Unsuppressed now transformSendRate pose entry.lastSendTime entry.lastSentPose := by
  rw [(m.tick_spec now transformSendRate).2, if_neg hlocal, ← duePose_isSome_iff hheld]
  constructor
  · rintro ⟨seq, hmem⟩
    obtain ⟨⟨id', entry'⟩, hentry', hpayload⟩ := List.mem_filterMap.mp hmem
    obtain ⟨pose', hdue, heq⟩ := Option.map_eq_some_iff.mp hpayload
    obtain ⟨rfl, -⟩ := Prod.mk.inj heq
    -- it is the entry of this object, and what is due of it is what is stored
    have hsame := Std.ExtTreeMap.mem_toList_iff_getElem?_eq_some.mp hentry'
    obtain rfl := Option.some.inj (hsame.symm.trans hentry)
    have hstored := (Prod.mk.inj ((duePose_eq_some hdue).symm.trans hheld)).2
    rw [← Option.some.inj hstored]
    exact hdue
  · intro hdue
    refine ⟨entry.sendPoseSeq + 1, List.mem_filterMap.mpr ⟨(id, entry), ?_, ?_⟩⟩
    · exact Std.ExtTreeMap.mem_toList_iff_getElem?_eq_some.mpr hentry
    · rw [duePayload, hdue, Option.map_some]

end ObjectSyncManager

/-! ### Becoming the owner -/

namespace ObjectRun

open ObjectSyncManager

variable {D : Type} [Double D]

/-- With the event this client becomes the owner of an object for which it holds a pose. -/
structure Takes (s : ObjectRun D) (event : ObjectEvent D) (id : UInt32) (entry : ObjectEntry D)
    (pose : PoseTransform D) : Prop where
  known : s.manager.localClientNo ≠ 0
  registered : s.manager.objects[id]? = some entry
  submitted : entry.localPose = some pose
  before : entry.state.ownerClientNo ≠ s.manager.localClientNo
  after : (s.step event).manager.ownerOf id = s.manager.localClientNo

/-- Whatever this client becomes the owner of is published by a tick that comes next. -/
def FirstPublished (now transformSendRate : D) (s : ObjectRun D) (event : ObjectEvent D) : Prop :=
  ∀ id entry pose, s.Takes event id entry pose →
    ∃ seq, (id, posePayload s.manager.localDeviceId id seq pose) ∈
      (s.step event).published now transformSendRate

/-- Nothing holds back the first pose: after an ownership message not even the beginning of time,
after a broadcast not the send record that the object has from before. -/
def FirstUnsuppressed (now transformSendRate : D) (s : ObjectRun D) (event : ObjectEvent D) :
    Prop :=
  ∀ id entry pose, s.Takes event id entry pose →
    match event with
    | .handleOwnershipChanged _ =>
      Double.lt (now - kNeverSent) (sendIntervalOf transformSendRate) = false
    | .handleRoomObjects _ =>
      Unsuppressed now transformSendRate pose entry.lastSendTime entry.lastSentPose
    | _ => True

/-- The device id is no event's business. -/
theorem localDeviceId_step (s : ObjectRun D) (event : ObjectEvent D) :
    (s.step event).manager.localDeviceId = s.manager.localDeviceId := by
  cases event with
  | registerObject objectId =>
    show (s.manager.registerObject _ objectId ()).2.1.localDeviceId = _
    rw [registerObject]
    split <;> rfl
  | submitLocalPose objectId pose =>
    show (s.manager.submitLocalPose objectId pose).localDeviceId = _
    rw [submitLocalPose]
    split <;> rfl
  | handleOwnershipChanged message =>
    show (s.manager.handleOwnershipChanged message).1.localDeviceId = _
    rw [handleOwnershipChanged]
    dsimp only
    split <;> rfl
  | handleRoomObjects message =>
    show (message.objects.foldl _ (s.manager, [])).1.localDeviceId = _
    refine List.foldlRecOn
      (motive := fun acc : ObjectSyncManager D × _ ↦ acc.1.localDeviceId = s.manager.localDeviceId)
      message.objects _ rfl fun acc hacc state _ ↦ ?_
    rw [handleRoomObject]
    split <;> exact hacc
  | tick now transformSendRate =>
    show (s.manager.tick _ now transformSendRate []).1.localDeviceId = _
    rw [tick]
    split <;> rfl

namespace Takes

variable {s : ObjectRun D} {event : ObjectEvent D} {id : UInt32} {entry : ObjectEntry D}
  {pose : PoseTransform D}

/-- An event that keeps the owner is no taking. -/
theorem not_of_owner (h : s.Takes event id entry pose)
    (howner : ((s.step event).manager.heldOf id).map Prod.fst =
      (s.manager.heldOf id).map Prod.fst) : False := by
  refine h.before ?_
  have hsame : (s.step event).manager.ownerOf id = s.manager.ownerOf id := by
    rw [ownerOf_eq_heldOf, ownerOf_eq_heldOf, howner]
  rw [← ownerOf_eq h.registered, ← hsame]
  exact h.after

/-- **The tick after the taking**, told from the entry it finds. -/
theorem published_iff (h : s.Takes event id entry pose) (now transformSendRate : D)
    {entry' : ObjectEntry D} (hentry : (s.step event).manager.objects[id]? = some entry')
    (hpose : entry'.localPose = some pose) :
    (∃ seq, (id, posePayload s.manager.localDeviceId id seq pose) ∈
      (s.step event).published now transformSendRate) ↔
      Unsuppressed now transformSendRate pose entry'.lastSendTime entry'.lastSentPose := by
  have hlocal := s.localClientNo_step event
  have hheld : entry'.held = ((s.step event).manager.localClientNo, some pose) := by
    rw [ObjectEntry.held, hpose, ← ownerOf_eq hentry, h.after, hlocal]
  rw [← s.localDeviceId_step event]
  exact ObjectSyncManager.published_iff now transformSendRate (hlocal ▸ h.known) hentry hheld

end Takes

/-- After an ownership message that takes an object, its send record is forgotten. -/
theorem entry_of_takes_ownershipChanged {s : ObjectRun D} {message : ObjectOwnershipChangedMessage}
    {id : UInt32} {entry : ObjectEntry D} {pose : PoseTransform D}
    (h : s.Takes (.handleOwnershipChanged message) id entry pose) :
    ∃ entry', (s.step (.handleOwnershipChanged message)).manager.objects[id]? = some entry' ∧
      entry'.sendRecord = (some pose, kNeverSent, none) := by
  have hheld := s.manager.heldOf_handleOwnershipChanged message id
  by_cases hid : message.objectId = id
  · subst hid
    have hnew : (message.newOwnerClientNo.toNat : ℤ) = s.manager.localClientNo := by
      rw [← h.after, ownerOf_eq_heldOf]
      refine Eq.symm ((congrArg (fun held ↦ (held.map Prod.fst).getD 0) hheld).trans ?_)
      rw [heldOf, h.registered, ObjectEvent.ownersTold, if_pos rfl]
      rfl
    have hrecord := sendRecord_handleOwnershipChanged h.registered h.known hnew
    rw [h.submitted] at hrecord
    exact Option.map_eq_some_iff.mp hrecord
  · -- a message about another object takes nothing
    rw [ObjectEvent.ownersTold, if_neg hid, map_tell_nil] at hheld
    exact (h.not_of_owner (congrArg _ hheld)).elim

/-- After a broadcast that takes an object, its send record is the one from before. -/
theorem entry_of_takes_roomObjects {s : ObjectRun D} {message : RoomObjectsMessage D}
    {id : UInt32} {entry : ObjectEntry D} {pose : PoseTransform D}
    (h : s.Takes (.handleRoomObjects message) id entry pose) :
    ∃ entry', (s.step (.handleRoomObjects message)).manager.objects[id]? = some entry' ∧
      entry'.sendRecord = (some pose, entry.lastSendTime, entry.lastSentPose) := by
  have hrecord := sendRecord_handleRoomObjects message s.manager id
  rw [h.registered, Option.map_some, ObjectEntry.sendRecord, h.submitted] at hrecord
  exact Option.map_eq_some_iff.mp hrecord

/-- **One event.** -/
theorem firstPublished_iff (now transformSendRate : D) (s : ObjectRun D) (event : ObjectEvent D) :
    s.FirstPublished now transformSendRate event ↔
      s.FirstUnsuppressed now transformSendRate event := by
  refine forall₄_congr fun id entry pose htakes ↦ ?_
  cases event with
  | registerObject objectId =>
    refine (htakes.not_of_owner ?_).elim
    rcases s.manager.heldOf_registerObject objectId id with hsame | ⟨hnone, -⟩
    · exact congrArg _ hsame
    · simp [htakes.registered] at hnone
  | submitLocalPose objectId submitted =>
    refine (htakes.not_of_owner ?_).elim
    have hheld := s.manager.heldOf_submitLocalPose objectId submitted id
    refine (congrArg _ hheld).trans ?_
    split
    · rw [Option.map_map]
      rfl
    · rfl
  | handleOwnershipChanged message =>
    obtain ⟨entry', hentry, hrecord⟩ := entry_of_takes_ownershipChanged htakes
    obtain ⟨hpose, hrest⟩ := Prod.mk.inj hrecord
    obtain ⟨htime, hsent⟩ := Prod.mk.inj hrest
    rw [htakes.published_iff now transformSendRate hentry hpose, htime, hsent, Unsuppressed]
    simp
  | handleRoomObjects message =>
    obtain ⟨entry', hentry, hrecord⟩ := entry_of_takes_roomObjects htakes
    obtain ⟨hpose, hrest⟩ := Prod.mk.inj hrecord
    obtain ⟨htime, hsent⟩ := Prod.mk.inj hrest
    rw [htakes.published_iff now transformSendRate hentry hpose, htime, hsent]
  | tick time rate =>
    refine (htakes.not_of_owner ?_).elim
    exact congrArg _ ((s.manager.tick_spec time rate).1 id)

end ObjectRun

/-- **The first pose of a period.** At every time and rate, a run in which a tick that comes next
always publishes what this client has become the owner of is a run in which nothing holds back the
first pose. -/
theorem first_published_iff {D : Type} [Double D] (s : ObjectRun D) (events : List (ObjectEvent D))
    (now transformSendRate : D) :
    Along ObjectRun.step (ObjectRun.FirstPublished now transformSendRate) s events ↔
      Along ObjectRun.step (ObjectRun.FirstUnsuppressed now transformSendRate) s events :=
  Along.congr_of_invariant (I := fun _ ↦ True) (fun _ _ _ ↦ trivial)
    (fun s event _ ↦ s.firstPublished_iff now transformSendRate event) trivial

/-- An object is owned and its pose is sent; it goes to another client, and a broadcast returns
it. -/
def returnedByBroadcast : List (ObjectEvent ℚ) :=
  [.registerObject 7, .submitLocalPose 7 PoseTransform.default,
    .handleOwnershipChanged ⟨7, 1, 0⟩, .tick 0 10, .handleOwnershipChanged ⟨7, 2, 1⟩,
    .handleRoomObjects
      { broadcastTime := 0
        objects := [{ objectId := 7, ownerClientNo := 1, poseSeq := 0, poseTime := 0,
                      position := Vec3.zero, rotation := Quat.identity }] }]

/-- **The first pose is held back.** -/
theorem first_pose_suppressed :
    ¬Along ObjectRun.step (ObjectRun.FirstPublished (1 / 2) 10)
      ({ manager := { localClientNo := 1 } } : ObjectRun ℚ) returnedByBroadcast := by
  rintro ⟨-, -, -, -, -, hfirst, -⟩
  let before : ObjectRun ℚ := List.foldl ObjectRun.step { manager := { localClientNo := 1 } }
    (returnedByBroadcast.take 5)
  -- the other client owns the object, and a pose is stored
  have hheld : (before.manager.heldOf 7).map (fun held ↦ (held.1, held.2.isSome)) =
      some (2, true) := by decide +kernel
  obtain ⟨held, hbefore, hparts⟩ := Option.map_eq_some_iff.mp hheld
  obtain ⟨entry, hentry, rfl⟩ := Option.map_eq_some_iff.mp hbefore
  obtain ⟨howner, hstored⟩ := Prod.mk.inj hparts
  obtain ⟨pose, hpose⟩ := Option.isSome_iff_exists.mp hstored
  have hknown : before.manager.localClientNo = 1 := by decide +kernel
  have hother : entry.state.ownerClientNo ≠ before.manager.localClientNo := by
    rw [hknown]
    exact fun h ↦ absurd (howner.symm.trans h) (by decide)
  obtain ⟨seq, hsent⟩ := hfirst 7 entry pose
    ⟨by decide +kernel, hentry, hpose, hother, by decide +kernel⟩
  have hnothing : ((List.foldl ObjectRun.step { manager := { localClientNo := 1 } }
      returnedByBroadcast).published (1 / 2 : ℚ) 10).map Prod.fst = [] := by decide +kernel
  rw [List.map_eq_nil_iff] at hnothing
  exact List.ne_nil_of_mem hsent hnothing

end StylyNetSync
