import StylyNetSync.Core.OwnershipPeriod

/-!
# One object of the manager

The manager keeps many objects in one map, and most of its calls name one of them, go through a list
of them, or loop over all. Still every object lives for itself: what a call does to its entry, and
what it publishes of it, depends on this entry and on the client's identity only.
`ObjectCall.onEntry` is that machine of one object, and the manager is one of them for each id
(`get?_apply`). Calls that do not name an object can be left out of a run, for all it matters to
this object (`alike_foldl_about`).
-/

namespace StylyNetSync

/-- A call of the manager. -/
inductive ObjectCall (D : Type)
  | event (event : ObjectEvent D)
  | unregisterObject (objectId : UInt32)
  | setLocalIdentity (clientNo : ℤ) (deviceId : Bytes)
  | clearRoomScopedState

/-- The entry after a record of a broadcast. -/
def ObjectEntry.tell {D : Type} (localClientNo : ℤ) (broadcastTime : UInt64)
    (state : RoomObjectState D) (entry : ObjectEntry D) : ObjectEntry D :=
  let owned := { entry.state with ownerClientNo := state.ownerClientNo.toNat }
  { entry with
    state :=
      if (state.ownerClientNo.toNat : ℤ) ≠ localClientNo ∨ localClientNo = 0 then
        { owned with
          poseSeq := state.poseSeq
          poseTime := state.poseTime
          broadcastTime := broadcastTime
          pose := ⟨state.position, state.rotation⟩
          hasPose := true }
      else owned }

variable {D : Type} [Double D]

/-- The entry after an ownership message about it. -/
def ObjectEntry.pass (localClientNo newOwner : ℤ) (entry : ObjectEntry D) : ObjectEntry D :=
  let owned := { entry with state := { entry.state with ownerClientNo := newOwner } }
  if newOwner = localClientNo ∧ localClientNo ≠ 0 then
    { owned with lastSentPose := none, lastSendTime := kNeverSent }
  else owned

/-- The entry after a tick. -/
def ObjectEntry.tick (localClientNo : ℤ) (now transformSendRate : D) (entry : ObjectEntry D) :
    ObjectEntry D :=
  match ObjectSyncManager.duePose localClientNo now
    (ObjectSyncManager.sendIntervalOf transformSendRate) entry with
  | none => entry
  | some pose => ObjectSyncManager.markSent now pose entry

/-- What a call does to the entry of an object. -/
def ObjectCall.onEntry (localClientNo : ℤ) (id : UInt32) (entry : Option (ObjectEntry D)) :
    ObjectCall D → Option (ObjectEntry D)
  | .event (.registerObject objectId) =>
    if objectId = id ∧ objectId ≠ 0 then
      let old := entry.getD ObjectEntry.default
      some { old with state := { old.state with objectId := objectId } }
    else entry
  | .event (.submitLocalPose objectId pose) =>
    if objectId = id then entry.map fun entry ↦ { entry with localPose := some pose } else entry
  | .event (.handleOwnershipChanged message) =>
    if message.objectId = id then
      entry.map (ObjectEntry.pass localClientNo message.newOwnerClientNo.toNat)
    else entry
  | .event (.handleRoomObjects message) =>
    message.objects.foldl
      (fun entry state ↦
        if state.objectId = id then
          entry.map (ObjectEntry.tell localClientNo message.broadcastTime state)
        else entry)
      entry
  | .event (.tick now transformSendRate) =>
    if localClientNo = 0 then entry
    else entry.map (ObjectEntry.tick localClientNo now transformSendRate)
  | .unregisterObject objectId => if objectId = id then none else entry
  | .setLocalIdentity _ _ => entry
  | .clearRoomScopedState => entry.map ObjectSyncManager.clearEntry

/-- The identity of the client after a call. -/
def ObjectCall.identity (before : ℤ × Bytes) : ObjectCall D → ℤ × Bytes
  | .setLocalIdentity clientNo deviceId => (clientNo, deviceId)
  | _ => before

/-- The part of a call that is about an object, if any. -/
def ObjectCall.about (id : UInt32) : ObjectCall D → Option (ObjectCall D)
  | .event (.registerObject objectId) =>
    if objectId = id then some (.event (.registerObject objectId)) else none
  | .event (.submitLocalPose objectId pose) =>
    if objectId = id then some (.event (.submitLocalPose objectId pose)) else none
  | .event (.handleOwnershipChanged message) =>
    if message.objectId = id then some (.event (.handleOwnershipChanged message)) else none
  | .event (.handleRoomObjects message) =>
    some (.event (.handleRoomObjects
      { message with objects := message.objects.filter fun state ↦ state.objectId = id }))
  | .unregisterObject objectId => if objectId = id then some (.unregisterObject objectId) else none
  | call => some call

namespace ObjectSyncManager

/-- The manager after a call. -/
def apply (m : ObjectSyncManager D) : ObjectCall D → ObjectSyncManager D
  | .event event => (({ manager := m } : ObjectRun D).step event).manager
  | .unregisterObject objectId => m.unregisterObject objectId
  | .setLocalIdentity clientNo deviceId => m.setLocalIdentity clientNo deviceId
  | .clearRoomScopedState => m.clearRoomScopedState

/-! ### What a call does to one object -/

omit [Double D] in
theorem get?_handleRoomObject (broadcastTime : UInt64)
    (acc : ObjectSyncManager D × List OwnershipChange) (state : RoomObjectState D) (id : UInt32) :
    (handleRoomObject broadcastTime acc state).1.objects[id]? =
      if state.objectId = id then
        acc.1.objects[id]?.map (ObjectEntry.tell acc.1.localClientNo broadcastTime state)
      else acc.1.objects[id]? := by
  rw [handleRoomObject]
  split
  · next hnone =>
    split
    · next hid =>
      obtain rfl := hid
      rw [hnone]
      rfl
    · rfl
  · next entry hentry =>
    dsimp only
    rw [OrderedMap.get?_insert]
    split
    · next hid =>
      obtain rfl := hid
      rw [hentry]
      rfl
    · rfl

omit [Double D] in
theorem get?_handleRoomObjects (message : RoomObjectsMessage D) (m : ObjectSyncManager D)
    (id : UInt32) :
    (m.handleRoomObjects message).1.objects[id]? =
      message.objects.foldl
        (fun entry state ↦
          if state.objectId = id then
            entry.map (ObjectEntry.tell m.localClientNo message.broadcastTime state)
          else entry)
        m.objects[id]? := by
  suffices hloop : ∀ (states : List (RoomObjectState D))
      (acc : ObjectSyncManager D × List OwnershipChange),
      acc.1.localClientNo = m.localClientNo →
        (states.foldl (handleRoomObject message.broadcastTime) acc).1.objects[id]? =
          states.foldl
            (fun entry state ↦
              if state.objectId = id then
                entry.map (ObjectEntry.tell m.localClientNo message.broadcastTime state)
              else entry)
            acc.1.objects[id]? from
    hloop message.objects (m, []) rfl
  intro states
  induction states with
  | nil => exact fun _ _ ↦ rfl
  | cons state rest ih =>
    intro acc hlocal
    rw [List.foldl_cons, ih _ ((localClientNo_handleRoomObject _ acc state).trans hlocal),
      get?_handleRoomObject, hlocal, List.foldl_cons]

/-- A round of the loop of `tick`, at an object. -/
theorem get?_tickEntry {ω : Type} (send : UInt32 → Bytes → ω → ω) (m : ObjectSyncManager D)
    (now sendInterval : D) (acc : OrderedMap UInt32 (ObjectEntry D) × ω)
    (pair : UInt32 × ObjectEntry D) (id : UInt32) :
    (tickEntry send m now sendInterval acc pair).1[id]? =
      if pair.1 = id then
        ((duePose m.localClientNo now sendInterval pair.2).map fun pose ↦
          markSent now pose pair.2).orElse fun _ ↦ acc.1[id]?
      else acc.1[id]? := by
  rw [tickEntry]
  split
  · next hnone =>
    rw [hnone]
    split <;> rfl
  · next pose hpose =>
    dsimp only
    rw [OrderedMap.get?_insert, hpose]
    rfl

/-- **A tick, at an object**, whatever it is that sends. -/
theorem get?_tick {ω : Type} (send : UInt32 → Bytes → ω → ω) (now transformSendRate : D)
    (m : ObjectSyncManager D) (w : ω) (id : UInt32) :
    (m.tick (some send) now transformSendRate w).1.objects[id]? =
      if m.localClientNo = 0 then m.objects[id]?
      else m.objects[id]?.map (ObjectEntry.tick m.localClientNo now transformSendRate) := by
  rw [tick]
  split
  · rfl
  · let round := tickEntry send m now (sendIntervalOf transformSendRate)
    let R (s s' : OrderedMap UInt32 (ObjectEntry D) × ω) : Prop := s'.1[id]? = s.1[id]?
    have hother (s : OrderedMap UInt32 (ObjectEntry D) × ω) (pair : UInt32 × ObjectEntry D)
        (hne : pair.1 ≠ id) : R s (round s pair) := by
      show (tickEntry send m now _ s pair).1[id]? = s.1[id]?
      rw [get?_tickEntry, if_neg hne]
    show (m.objects.toList.foldl round (m.objects, w)).1[id]? = _
    rcases hentry : m.objects[id]? with - | entry
    · -- no round is for this object
      refine (OrderedMap.foldl_agree (R := R) (fun _ ↦ rfl) (fun _ _ _ h h' ↦ h'.trans h)
        (fun s pair hpair ↦ hother s pair ?_) (m.objects, w)).trans hentry
      rintro rfl
      have hmem := Std.ExtTreeMap.mem_toList_iff_getElem?_eq_some.mp hpair
      rw [hentry] at hmem
      simp at hmem
    · -- one round is
      have hmem : (id, entry) ∈ m.objects.toList :=
        Std.ExtTreeMap.mem_toList_iff_getElem?_eq_some.mpr hentry
      have hcongr (s s' : OrderedMap UInt32 (ObjectEntry D) × ω) (h : R s s') :
          R (round s (id, entry)) (round s' (id, entry)) := by
        show (tickEntry send m now _ s' _).1[id]? = (tickEntry send m now _ s _).1[id]?
        rw [get?_tickEntry, get?_tickEntry, show s'.1[id]? = s.1[id]? from h]
      have hround := OrderedMap.foldl_agree_of_mem (R := R) (fun _ ↦ rfl)
        (fun _ _ _ h h' ↦ h'.trans h) hother hcongr (OrderedMap.nodup_keys_toList m.objects) hmem
        (m.objects, w)
      refine Eq.trans hround ?_
      show (tickEntry send m now _ (m.objects, w) (id, entry)).1[id]? = _
      rw [get?_tickEntry, if_pos rfl, hentry, Option.map_some, ObjectEntry.tick]
      rcases duePose m.localClientNo now (sendIntervalOf transformSendRate) entry with - | pose <;>
        rfl

/-- **The manager is one machine for each object.** -/
theorem get?_apply (m : ObjectSyncManager D) (call : ObjectCall D) (id : UInt32) :
    (m.apply call).objects[id]? = call.onEntry m.localClientNo id m.objects[id]? := by
  cases call with
  | event event =>
    cases event with
    | registerObject objectId =>
      show (m.registerObject ⟨none, none⟩ objectId ()).2.1.objects[id]? = _
      rw [registerObject, ObjectCall.onEntry]
      split
      · next hzero => rw [if_neg fun h ↦ h.2 hzero]
      · next hnonzero =>
        dsimp only
        rw [OrderedMap.get?_insert]
        by_cases hid : objectId = id
        · obtain rfl := hid
          rw [if_pos rfl, if_pos ⟨rfl, hnonzero⟩]
        · rw [if_neg hid, if_neg fun h ↦ hid h.1]
    | submitLocalPose objectId pose =>
      show (m.submitLocalPose objectId pose).objects[id]? = _
      rw [submitLocalPose, ObjectCall.onEntry]
      by_cases hid : objectId = id
      · obtain rfl := hid
        rw [if_pos rfl]
        rcases hentry : m.objects[objectId]? with - | entry
        · exact hentry
        · dsimp only
          rw [OrderedMap.get?_insert, if_pos rfl]
          rfl
      · rw [if_neg hid]
        split
        · rfl
        · dsimp only
          rw [OrderedMap.get?_insert, if_neg hid]
    | handleOwnershipChanged message =>
      show (m.handleOwnershipChanged message).1.objects[id]? = _
      rw [handleOwnershipChanged, ObjectCall.onEntry]
      by_cases hid : message.objectId = id
      · obtain rfl := hid
        rw [if_pos rfl]
        dsimp only
        rcases hentry : m.objects[message.objectId]? with - | entry
        · exact hentry
        · dsimp only
          rw [OrderedMap.get?_insert, if_pos rfl]
          rfl
      · rw [if_neg hid]
        dsimp only
        split
        · rfl
        · dsimp only
          rw [OrderedMap.get?_insert, if_neg hid]
    | handleRoomObjects message => exact get?_handleRoomObjects message m id
    | tick now transformSendRate => exact get?_tick recordPose now transformSendRate m [] id
  | unregisterObject objectId => exact OrderedMap.get?_erase m.objects objectId id
  | setLocalIdentity clientNo deviceId => rfl
  | clearRoomScopedState => exact get?_clearRoomScopedState m id

/-! ### Calls that are about other objects -/

def identity (m : ObjectSyncManager D) : ℤ × Bytes := (m.localClientNo, m.localDeviceId)

theorem identity_apply (m : ObjectSyncManager D) (call : ObjectCall D) :
    (m.apply call).identity = call.identity m.identity := by
  cases call with
  | event event =>
    cases event with
    | registerObject objectId =>
      show (m.registerObject _ objectId ()).2.1.identity = _
      rw [registerObject]
      split <;> rfl
    | submitLocalPose objectId pose =>
      show (m.submitLocalPose objectId pose).identity = _
      rw [submitLocalPose]
      split <;> rfl
    | handleOwnershipChanged message =>
      show (m.handleOwnershipChanged message).1.identity = _
      rw [handleOwnershipChanged]
      dsimp only
      split <;> rfl
    | handleRoomObjects message =>
      refine List.foldlRecOn
        (motive := fun acc : ObjectSyncManager D × _ ↦ acc.1.identity = m.identity)
        message.objects _ rfl fun acc hacc state _ ↦ Eq.trans ?_ hacc
      rw [handleRoomObject]
      split <;> rfl
    | tick now transformSendRate =>
      show (m.tick (some recordPose) now transformSendRate []).1.identity = _
      rw [tick]
      split <;> rfl
  | _ => rfl

/-- Two managers with the same identity and the same entry of an object. -/
structure Alike (id : UInt32) (m m' : ObjectSyncManager D) : Prop where
  identity : m'.identity = m.identity
  entry : m'.objects[id]? = m.objects[id]?

omit [Double D] in
theorem Alike.refl (id : UInt32) (m : ObjectSyncManager D) : Alike id m m := ⟨rfl, rfl⟩

/-- A call that is not about an object leaves its entry and the identity alone, and what is left of
one that is does the same to them. -/
theorem about_spec (localClientNo : ℤ) (id : UInt32) (entry : Option (ObjectEntry D))
    (before : ℤ × Bytes) (call : ObjectCall D) :
    (call.about id).elim entry (ObjectCall.onEntry localClientNo id entry) =
        call.onEntry localClientNo id entry ∧
      (call.about id).elim before (ObjectCall.identity before) = call.identity before := by
  cases call with
  | event event =>
    cases event with
    | registerObject objectId =>
      rw [ObjectCall.about]
      split
      · exact ⟨rfl, rfl⟩
      · next hid => exact ⟨(if_neg fun h ↦ hid h.1).symm, rfl⟩
    | submitLocalPose objectId pose =>
      rw [ObjectCall.about]
      split
      · exact ⟨rfl, rfl⟩
      · next hid => exact ⟨(if_neg hid).symm, rfl⟩
    | handleOwnershipChanged message =>
      rw [ObjectCall.about]
      split
      · exact ⟨rfl, rfl⟩
      · next hid => exact ⟨(if_neg hid).symm, rfl⟩
    | handleRoomObjects message =>
      refine ⟨?_, rfl⟩
      show (message.objects.filter fun state ↦ state.objectId = id).foldl _ entry =
        message.objects.foldl _ entry
      rw [List.foldl_filter]
      refine List.foldl_ext _ _ entry fun entry state _ ↦ ?_
      by_cases hid : state.objectId = id <;> simp [hid]
    | tick now transformSendRate => exact ⟨rfl, rfl⟩
  | unregisterObject objectId =>
    rw [ObjectCall.about]
    split
    · exact ⟨rfl, rfl⟩
    · next hid => exact ⟨(if_neg hid).symm, rfl⟩
  | _ => exact ⟨rfl, rfl⟩

/-- **One call, and what of it is about the object.** -/
theorem Alike.apply {id : UInt32} {m m' : ObjectSyncManager D} (h : Alike id m m')
    (call : ObjectCall D) : Alike id (m.apply call) ((call.about id).elim m' m'.apply) := by
  have hlocal : m'.localClientNo = m.localClientNo := congrArg Prod.fst h.identity
  obtain ⟨hentry, hidentity⟩ :=
    about_spec m.localClientNo id m.objects[id]? m.identity call
  rcases habout : call.about id with - | about
  · rw [habout] at hentry hidentity
    exact ⟨h.identity.trans (hidentity.trans (identity_apply m call).symm),
      h.entry.trans (hentry.trans (get?_apply m call id).symm)⟩
  · rw [habout] at hentry hidentity
    refine ⟨?_, ?_⟩
    · rw [identity_apply, ← hidentity, Option.elim_some, Option.elim_some, identity_apply,
        h.identity]
    · rw [get?_apply, ← hentry, Option.elim_some, Option.elim_some, get?_apply, h.entry, hlocal]

/-- **Objects do not interfere.** To an object a run of the manager is what it is without the calls
that are about others. -/
theorem alike_foldl_about {id : UInt32} {m m' : ObjectSyncManager D} (h : Alike id m m')
    (calls : List (ObjectCall D)) :
    Alike id (calls.foldl apply m) ((calls.filterMap (ObjectCall.about id)).foldl apply m') := by
  induction calls generalizing m m' with
  | nil => exact h
  | cons call calls ih =>
    have hcall := h.apply call
    rcases habout : call.about id with - | about
    · rw [habout] at hcall
      rw [List.filterMap_cons_none habout]
      exact ih hcall
    · rw [habout] at hcall
      rw [List.filterMap_cons_some habout]
      exact ih hcall

end ObjectSyncManager

end StylyNetSync
