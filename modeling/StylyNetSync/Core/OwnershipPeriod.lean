import StylyNetSync.Core.ObjectSyncManager
import StylyNetSync.Foundation.Run

/-!
# Poses and ownership periods

An ownership period of an object begins when its owner becomes this client, by an ownership message
or by a room-objects broadcast. What the host submits is stored whoever owns the object, and it is
still there when a period begins. The first tick of the period therefore publishes a pose of an
earlier one, or of no period at all, unless the host has submitted a new one by then.

`since` observes the poses submitted in the current period. A run publishes nothing but these
exactly if every tick that finds an object due finds it submitted in its period
(`publishes_fresh_iff`).
-/

namespace StylyNetSync

/-! ### Runs of the manager -/

inductive ObjectEvent (D : Type)
  | registerObject (objectId : UInt32)
  | submitLocalPose (objectId : UInt32) (pose : PoseTransform D)
  | handleOwnershipChanged (message : ObjectOwnershipChangedMessage)
  | handleRoomObjects (message : RoomObjectsMessage D)
  | tick (now transformSendRate : D)

/-- The owners an event gives to an object, in order. -/
def ObjectEvent.ownersTold {D : Type} (objectId : UInt32) : ObjectEvent D → List ℤ
  | .handleOwnershipChanged message =>
    if message.objectId = objectId then [(message.newOwnerClientNo.toNat : ℤ)] else []
  | .handleRoomObjects message =>
    message.objects.filterMap fun state ↦
      if state.objectId = objectId then some (state.ownerClientNo.toNat : ℤ) else none
  | _ => []

/-- Somewhere along the owners, the object passes from another owner to this client. -/
def gains (localClientNo : ℤ) : ℤ → List ℤ → Bool
  | _, [] => false
  | owner, next :: rest =>
    (owner ≠ localClientNo && next = localClientNo) || gains localClientNo next rest

structure ObjectRun (D : Type) where
  manager : ObjectSyncManager D
  /-- The poses submitted for an object since its owner last became this client. -/
  since : UInt32 → List (PoseTransform D) := fun _ ↦ []

/-- A transform sender that keeps what it is handed. -/
def recordPose : UInt32 → Bytes → List (UInt32 × Bytes) → List (UInt32 × Bytes) :=
  fun objectId payload handed ↦ handed ++ [(objectId, payload)]

namespace ObjectRun

variable {D : Type}

/-- An ownership period of the object begins with the event. -/
def begins (s : ObjectRun D) (event : ObjectEvent D) (objectId : UInt32) : Bool :=
  s.manager.isRegistered objectId &&
    gains s.manager.localClientNo (s.manager.ownerOf objectId) (event.ownersTold objectId)

variable [Double D]

/-- What a tick hands to the transform sender. -/
def published (s : ObjectRun D) (now transformSendRate : D) : List (UInt32 × Bytes) :=
  (s.manager.tick (some recordPose) now transformSendRate []).2

def step (s : ObjectRun D) (event : ObjectEvent D) : ObjectRun D :=
  match event with
  | .registerObject objectId =>
    { s with manager := (s.manager.registerObject ⟨none, none⟩ objectId ()).2.1 }
  | .submitLocalPose objectId pose =>
    { manager := s.manager.submitLocalPose objectId pose
      since := fun id ↦ if id = objectId then s.since id ++ [pose] else s.since id }
  | .handleOwnershipChanged message =>
    { manager := (s.manager.handleOwnershipChanged message).1
      since := fun id ↦ if s.begins event id then [] else s.since id }
  | .handleRoomObjects message =>
    { manager := (s.manager.handleRoomObjects message).1
      since := fun id ↦ if s.begins event id then [] else s.since id }
  | .tick now transformSendRate =>
    { s with manager := (s.manager.tick (some recordPose) now transformSendRate []).1 }

/-- Every payload a tick hands over carries a pose of the current ownership period. -/
def PublishesFresh (s : ObjectRun D) : ObjectEvent D → Prop
  | .tick now transformSendRate =>
    ∀ sent ∈ s.published now transformSendRate, ∃ pose ∈ s.since sent.1, ∃ seq,
      sent.2 = ObjectSyncManager.posePayload s.manager.localDeviceId sent.1 seq pose
  | _ => True

/-- Every object that a tick finds due has been submitted in its current ownership period. -/
def Resubmitted (s : ObjectRun D) : ObjectEvent D → Prop
  | .tick now transformSendRate =>
    s.manager.localClientNo ≠ 0 → ∀ objectId entry, s.manager.objects[objectId]? = some entry →
      (ObjectSyncManager.duePose s.manager.localClientNo now
        (ObjectSyncManager.sendIntervalOf transformSendRate) entry).isSome = true →
      s.since objectId ≠ []
  | _ => True

end ObjectRun

/-! ### Owners and stored poses -/

/-- What decides whether a pose may be published: the owner, and the pose that is stored. -/
def ObjectEntry.held {D : Type} (entry : ObjectEntry D) : ℤ × Option (PoseTransform D) :=
  (entry.state.ownerClientNo, entry.localPose)

theorem owner_of_not_gains {localClientNo owner : ℤ} {owners : List ℤ}
    (hgains : gains localClientNo owner owners = false)
    (hlast : owners.getLastD owner = localClientNo) : owner = localClientNo := by
  induction owners generalizing owner with
  | nil => exact hlast
  | cons next rest ih =>
    rw [gains, Bool.or_eq_false_iff] at hgains
    rw [List.getLastD_cons] at hlast
    have hnext := ih hgains.2 hlast
    by_contra howner
    simp [howner, hnext] at hgains

namespace ObjectSyncManager

variable {D : Type}

/-- What the manager holds of an object. -/
def heldOf (m : ObjectSyncManager D) (objectId : UInt32) : Option (ℤ × Option (PoseTransform D)) :=
  m.objects[objectId]?.map ObjectEntry.held

/-- An object that changes hands keeps its stored pose. -/
def tell (owners : List ℤ) (held : ℤ × Option (PoseTransform D)) : ℤ × Option (PoseTransform D) :=
  (owners.getLastD held.1, held.2)

theorem map_tell_nil (held : Option (ℤ × Option (PoseTransform D))) :
    held.map (tell []) = held := by
  rcases held with - | held <;> rfl

/-- Replacing the entry of an object. -/
theorem heldOf_insert (m : ObjectSyncManager D) (objectId : UInt32) (entry : ObjectEntry D)
    (id : UInt32) :
    ({ m with objects := m.objects.insert objectId entry } : ObjectSyncManager D).heldOf id =
      if objectId = id then some entry.held else m.heldOf id := by
  show ((m.objects.insert objectId entry)[id]?).map ObjectEntry.held = _
  rw [OrderedMap.get?_insert]
  split <;> rfl

theorem heldOf_submitLocalPose (m : ObjectSyncManager D) (objectId : UInt32)
    (pose : PoseTransform D) (id : UInt32) :
    (m.submitLocalPose objectId pose).heldOf id =
      if objectId = id then (m.heldOf id).map fun held ↦ (held.1, some pose)
      else m.heldOf id := by
  rw [submitLocalPose]
  split
  · next hnone =>
    split
    · next hid =>
      obtain rfl := hid
      simp [heldOf, hnone]
    · rfl
  · next entry hentry =>
    rw [heldOf_insert]
    split
    · next hid =>
      obtain rfl := hid
      simp [heldOf, hentry, ObjectEntry.held]
    · rfl

/-- One object of a broadcast. -/
theorem heldOf_handleRoomObject (broadcastTime : UInt64)
    (acc : ObjectSyncManager D × List OwnershipChange) (state : RoomObjectState D) (id : UInt32) :
    (handleRoomObject broadcastTime acc state).1.heldOf id =
      (acc.1.heldOf id).map
        (tell (if state.objectId = id then [(state.ownerClientNo.toNat : ℤ)] else [])) := by
  rw [handleRoomObject]
  split
  · next hnone =>
    by_cases hid : state.objectId = id
    · obtain rfl := hid
      simp [heldOf, hnone]
    · rw [if_neg hid, map_tell_nil]
  · next entry hentry =>
    rw [heldOf_insert]
    by_cases hid : state.objectId = id
    · obtain rfl := hid
      rw [if_pos rfl, if_pos rfl]
      simp only [heldOf, hentry, Option.map_some, ObjectEntry.held, tell, List.getLastD_cons,
        List.getLastD_nil]
      split <;> rfl
    · rw [if_neg hid, if_neg hid, map_tell_nil]

theorem localClientNo_handleRoomObject (broadcastTime : UInt64)
    (acc : ObjectSyncManager D × List OwnershipChange) (state : RoomObjectState D) :
    (handleRoomObject broadcastTime acc state).1.localClientNo = acc.1.localClientNo := by
  rw [handleRoomObject]
  split <;> rfl

/-- A broadcast, object by object. -/
theorem heldOf_handleRoomObjects (message : RoomObjectsMessage D) (m : ObjectSyncManager D)
    (id : UInt32) :
    (m.handleRoomObjects message).1.heldOf id =
      (m.heldOf id).map (tell ((ObjectEvent.handleRoomObjects message).ownersTold id)) := by
  suffices hloop : ∀ (states : List (RoomObjectState D))
      (acc : ObjectSyncManager D × List OwnershipChange),
      (states.foldl (handleRoomObject message.broadcastTime) acc).1.heldOf id =
        (acc.1.heldOf id).map (tell (states.filterMap fun state ↦
          if state.objectId = id then some (state.ownerClientNo.toNat : ℤ) else none)) from
    hloop message.objects (m, [])
  intro states
  induction states with
  | nil =>
    intro acc
    exact (map_tell_nil (acc.1.heldOf id)).symm
  | cons state rest ih =>
    intro acc
    rw [List.foldl_cons, ih, heldOf_handleRoomObject, Option.map_map]
    by_cases hid : state.objectId = id
    · simp only [List.filterMap_cons, if_pos hid]
      refine congrArg (Option.map · (acc.1.heldOf id)) (funext fun held ↦ ?_)
      show tell _ (tell [_] held) = tell (_ :: _) held
      rw [tell, tell, tell, List.getLastD_cons, List.getLastD_cons]
      rfl
    · simp only [List.filterMap_cons, if_neg hid]
      rfl

variable [Double D]

theorem heldOf_handleOwnershipChanged (message : ObjectOwnershipChangedMessage)
    (m : ObjectSyncManager D) (id : UInt32) :
    (m.handleOwnershipChanged message).1.heldOf id =
      (m.heldOf id).map
        (tell ((ObjectEvent.handleOwnershipChanged (D := D) message).ownersTold id)) := by
  rw [handleOwnershipChanged, ObjectEvent.ownersTold]
  dsimp only
  split
  · next hnone =>
    by_cases hid : message.objectId = id
    · obtain rfl := hid
      simp [heldOf, hnone]
    · rw [if_neg hid, map_tell_nil]
  · next entry hentry =>
    rw [heldOf_insert]
    by_cases hid : message.objectId = id
    · obtain rfl := hid
      rw [if_pos rfl, if_pos rfl]
      simp only [heldOf, hentry, Option.map_some]
      split <;> rfl
    · rw [if_neg hid, if_neg hid, map_tell_nil]

/-- Registering an object adds an entry without a pose, or changes nothing that matters here. -/
theorem heldOf_registerObject (objectId : UInt32) (m : ObjectSyncManager D) (id : UInt32) :
    (m.registerObject ⟨none, none⟩ objectId ()).2.1.heldOf id = m.heldOf id ∨
      m.objects[id]? = none ∧
        ((m.registerObject ⟨none, none⟩ objectId ()).2.1.heldOf id).map Prod.snd = some none := by
  rw [registerObject]
  split
  · exact Or.inl rfl
  · dsimp only
    rw [heldOf_insert]
    split
    · next hid =>
      obtain rfl := hid
      rcases hentry : m.objects[objectId]? with - | entry
      · exact Or.inr ⟨rfl, rfl⟩
      · refine Or.inl ?_
        rw [heldOf, hentry]
        rfl
    · exact Or.inl rfl

/-- What the loop of `tick` hands over for one object. -/
def duePayload (m : ObjectSyncManager D) (now sendInterval : D) (pair : UInt32 × ObjectEntry D) :
    Option (UInt32 × Bytes) :=
  (duePose m.localClientNo now sendInterval pair.2).map fun pose ↦
    (pair.1, posePayload m.localDeviceId pair.1 (pair.2.sendPoseSeq + 1) pose)

/-- The loop of `tick`: owners and stored poses stay, and each object that is due is handed over. -/
theorem tickLoop_spec (m : ObjectSyncManager D) (now sendInterval : D)
    (pairs : List (UInt32 × ObjectEntry D))
    (acc : OrderedMap UInt32 (ObjectEntry D) × List (UInt32 × Bytes))
    (hpairs : ∀ pair ∈ pairs, m.objects[pair.1]? = some pair.2)
    (hacc : ∀ id : UInt32, acc.1[id]?.map ObjectEntry.held = m.heldOf id) :
    (∀ id : UInt32,
      (pairs.foldl (tickEntry recordPose m now sendInterval) acc).1[id]?.map ObjectEntry.held =
        m.heldOf id) ∧
      (pairs.foldl (tickEntry recordPose m now sendInterval) acc).2 =
        acc.2 ++ pairs.filterMap (m.duePayload now sendInterval) := by
  induction pairs generalizing acc with
  | nil => exact ⟨hacc, (List.append_nil _).symm⟩
  | cons pair rest ih =>
    have hrest := fun pair' hmem ↦ hpairs pair' (List.mem_cons_of_mem _ hmem)
    rw [List.foldl_cons, tickEntry]
    rcases hdue : duePose m.localClientNo now sendInterval pair.2 with - | pose
    · have hnothing : m.duePayload now sendInterval pair = none := by rw [duePayload, hdue]; rfl
      rw [List.filterMap_cons_none hnothing]
      exact ih acc hrest hacc
    · have hpayload : m.duePayload now sendInterval pair =
          some (pair.1, posePayload m.localDeviceId pair.1 (pair.2.sendPoseSeq + 1) pose) := by
        rw [duePayload, hdue, Option.map_some]
      -- the entry that is put back has the owner and the pose of the one in the map
      have hput : ∀ id : UInt32, (acc.1.insert pair.1 (markSent now pose pair.2))[id]?.map
          ObjectEntry.held = m.heldOf id := by
        intro id
        rw [OrderedMap.get?_insert]
        split
        · next hid =>
          obtain rfl := hid
          rw [heldOf, hpairs pair List.mem_cons_self]
          rfl
        · exact hacc id
      obtain ⟨hheld, hsent⟩ := ih (_, recordPose pair.1 _ acc.2) hrest hput
      refine ⟨hheld, hsent.trans ?_⟩
      rw [List.filterMap_cons_some hpayload, recordPose, List.append_assoc]
      rfl

/-- **What a tick publishes**, and what it leaves alone. -/
theorem tick_spec (m : ObjectSyncManager D) (now transformSendRate : D) :
    (∀ id, (m.tick (some recordPose) now transformSendRate []).1.heldOf id = m.heldOf id) ∧
      (m.tick (some recordPose) now transformSendRate []).2 =
        if m.localClientNo = 0 then []
        else m.objects.toList.filterMap (m.duePayload now (sendIntervalOf transformSendRate)) := by
  rw [tick]
  split
  · exact ⟨fun _ ↦ rfl, rfl⟩
  · exact tickLoop_spec m now (sendIntervalOf transformSendRate) m.objects.toList (m.objects, [])
      (fun _ ↦ Std.ExtTreeMap.mem_toList_iff_getElem?_eq_some.mp) fun _ ↦ rfl

theorem duePose_eq_some {localClientNo : ℤ} {now sendInterval : D} {entry : ObjectEntry D}
    {pose : PoseTransform D} (h : duePose localClientNo now sendInterval entry = some pose) :
    entry.held = (localClientNo, some pose) := by
  rw [duePose] at h
  split at h
  · simp at h
  · next howner =>
    split at h
    · simp at h
    · next stored hstored =>
      have hpose : stored = pose := by
        split at h
        · simp at h
        · split at h
          · simp at h
          · exact Option.some.inj h
      rw [ObjectEntry.held, hstored, hpose, not_not.mp howner]

end ObjectSyncManager

/-! ### The invariant of a run -/

namespace ObjectRun

variable {D : Type}

/-- The stored pose of an owned object belongs to the period, if any was submitted in it. -/
def PeriodInv (s : ObjectRun D) : Prop :=
  ∀ id pose, s.manager.heldOf id = some (s.manager.localClientNo, some pose) → s.since id ≠ [] →
    pose ∈ s.since id

/-- An event that tells owners: a stored pose is carried into a new period only with nothing
submitted in it. -/
theorem periodInv_told {s : ObjectRun D} (h : s.PeriodInv) {m : ObjectSyncManager D}
    (event : ObjectEvent D) (hlocal : m.localClientNo = s.manager.localClientNo)
    (hheld : ∀ id, m.heldOf id =
      (s.manager.heldOf id).map (ObjectSyncManager.tell (event.ownersTold id))) :
    PeriodInv { manager := m, since := fun id ↦ if s.begins event id then [] else s.since id } := by
  intro id pose hpose hsince
  change m.heldOf id = some (m.localClientNo, some pose) at hpose
  change (if s.begins event id then [] else s.since id) ≠ [] at hsince
  show pose ∈ if s.begins event id then [] else s.since id
  -- a period that begins with this event has nothing submitted in it yet
  have hbegins : s.begins event id = false := by
    by_contra hbegins
    rw [Bool.not_eq_false] at hbegins
    simp [hbegins] at hsince
  rw [hbegins] at hsince ⊢
  rw [hheld, hlocal] at hpose
  obtain ⟨⟨owner, stored⟩, hold, htold⟩ := Option.map_eq_some_iff.mp hpose
  obtain ⟨hlast, rfl⟩ := Prod.mk.inj htold
  -- the object is still ours, and no period began, so it was ours before
  obtain ⟨entry, hentry, hentryHeld⟩ := Option.map_eq_some_iff.mp hold
  have howner : s.manager.ownerOf id = owner := by
    rw [ObjectSyncManager.ownerOf, hentry]
    exact congrArg Prod.fst hentryHeld
  have hregistered : s.manager.isRegistered id = true := by
    rw [ObjectSyncManager.isRegistered, Std.ExtTreeMap.contains_eq_isSome_getElem?, hentry]
    rfl
  rw [begins, hregistered, Bool.true_and, howner] at hbegins
  rw [owner_of_not_gains hbegins hlast] at hold
  exact h id pose hold hsince

variable [Double D]

/-- The local number is no event's business. -/
theorem localClientNo_step (s : ObjectRun D) (event : ObjectEvent D) :
    (s.step event).manager.localClientNo = s.manager.localClientNo := by
  cases event with
  | registerObject objectId =>
    show (s.manager.registerObject _ objectId ()).2.1.localClientNo = _
    rw [ObjectSyncManager.registerObject]
    split <;> rfl
  | submitLocalPose objectId pose =>
    show (s.manager.submitLocalPose objectId pose).localClientNo = _
    rw [ObjectSyncManager.submitLocalPose]
    split <;> rfl
  | handleOwnershipChanged message =>
    show (s.manager.handleOwnershipChanged message).1.localClientNo = _
    rw [ObjectSyncManager.handleOwnershipChanged]
    dsimp only
    split <;> rfl
  | handleRoomObjects message =>
    show (message.objects.foldl _ (s.manager, [])).1.localClientNo = _
    refine List.foldlRecOn
      (motive := fun acc : ObjectSyncManager D × _ ↦ acc.1.localClientNo = s.manager.localClientNo)
      message.objects _ rfl fun acc hacc state _ ↦ ?_
    exact (ObjectSyncManager.localClientNo_handleRoomObject _ acc state).trans hacc
  | tick now transformSendRate =>
    show (s.manager.tick _ now transformSendRate []).1.localClientNo = _
    rw [ObjectSyncManager.tick]
    split <;> rfl

/-- **One event keeps the invariant.** -/
theorem periodInv_step {s : ObjectRun D} (h : s.PeriodInv) (event : ObjectEvent D) :
    (s.step event).PeriodInv := by
  have hlocal := s.localClientNo_step event
  cases event with
  | registerObject objectId =>
    intro id pose hpose hsince
    rw [hlocal] at hpose
    rcases s.manager.heldOf_registerObject objectId id with hsame | ⟨-, hnew⟩
    · exact h id pose (hsame.symm.trans hpose) hsince
    · have hnone := hnew.symm.trans (congrArg (Option.map Prod.snd) hpose)
      simp at hnone
  | submitLocalPose objectId submitted =>
    intro id pose hpose hsince
    rw [hlocal] at hpose
    have hheld := (s.manager.heldOf_submitLocalPose objectId submitted id).symm.trans hpose
    show pose ∈ if id = objectId then s.since id ++ [submitted] else s.since id
    by_cases hid : objectId = id
    · obtain rfl := hid
      rw [if_pos rfl] at hheld ⊢
      obtain ⟨_, -, hnew⟩ := Option.map_eq_some_iff.mp hheld
      obtain ⟨-, hpose⟩ := Prod.mk.inj hnew
      rw [← Option.some.inj hpose]
      exact List.mem_append_right _ (List.mem_singleton_self _)
    · rw [if_neg hid] at hheld
      change (if id = objectId then _ else s.since id) ≠ [] at hsince
      rw [if_neg (Ne.symm hid)] at hsince ⊢
      exact h id pose hheld hsince
  | handleOwnershipChanged message =>
    exact periodInv_told h (.handleOwnershipChanged message) hlocal
      (s.manager.heldOf_handleOwnershipChanged message)
  | handleRoomObjects message =>
    exact periodInv_told h (.handleRoomObjects message) hlocal
      (s.manager.heldOf_handleRoomObjects message)
  | tick now transformSendRate =>
    intro id pose hpose hsince
    rw [hlocal] at hpose
    have hsame := (s.manager.tick_spec now transformSendRate).1 id
    exact h id pose (hsame.symm.trans hpose) hsince

/-- What a tick publishes is fresh exactly if what is due was submitted in its period. -/
theorem publishesFresh_iff {s : ObjectRun D} (h : s.PeriodInv) (event : ObjectEvent D) :
    s.PublishesFresh event ↔ s.Resubmitted event := by
  cases event with
  | tick now transformSendRate =>
    have hpublished := (s.manager.tick_spec now transformSendRate).2
    rw [PublishesFresh, Resubmitted, published, hpublished]
    split
    · next hlocal => simp [hlocal]
    · next hlocal =>
      constructor
      · -- an object that is due is handed over, and its payload carries a pose of the period
        intro hfresh _ id entry hentry hdue
        obtain ⟨pose, hpose⟩ := Option.isSome_iff_exists.mp hdue
        have hpayload : s.manager.duePayload now
            (ObjectSyncManager.sendIntervalOf transformSendRate) (id, entry) = some (id, _) :=
          congrArg (Option.map _) hpose
        have hmem := List.mem_filterMap.mpr ⟨(id, entry),
          Std.ExtTreeMap.mem_toList_iff_getElem?_eq_some.mpr hentry, hpayload⟩
        obtain ⟨fresh, hsince, -⟩ := hfresh _ hmem
        exact List.ne_nil_of_mem hsince
      · -- the payload carries the stored pose, which is the last one submitted
        intro hresubmitted sent hsent
        obtain ⟨⟨id, entry⟩, hmem, hpayload⟩ := List.mem_filterMap.mp hsent
        obtain ⟨pose, hpose, rfl⟩ := Option.map_eq_some_iff.mp hpayload
        have hentry := Std.ExtTreeMap.mem_toList_iff_getElem?_eq_some.mp hmem
        have hheld : s.manager.heldOf id = some (s.manager.localClientNo, some pose) := by
          rw [ObjectSyncManager.heldOf, hentry, Option.map_some,
            ObjectSyncManager.duePose_eq_some hpose]
        have hsince := hresubmitted hlocal id entry hentry (Option.isSome_of_eq_some hpose)
        exact ⟨pose, h id pose hheld hsince, _, rfl⟩
  | _ => exact Iff.rfl

end ObjectRun

/-- **Poses of the current ownership period.** From a manager without objects, a run publishes
nothing but poses submitted in the current ownership period of their object if and only if each of
its ticks finds every object that is due submitted in its period. -/
theorem publishes_fresh_iff {D : Type} [Double D] (localClientNo : ℤ) (deviceId : Bytes)
    (events : List (ObjectEvent D)) :
    let start : ObjectRun D :=
      { manager := { localClientNo := localClientNo, localDeviceId := deviceId } }
    Along ObjectRun.step ObjectRun.PublishesFresh start events ↔
      Along ObjectRun.step ObjectRun.Resubmitted start events := by
  intro start
  have hstart : start.PeriodInv := by
    intro id pose hpose
    simp [start, ObjectSyncManager.heldOf] at hpose
  exact Along.congr_of_invariant (fun _ event hs ↦ ObjectRun.periodInv_step hs event)
    (fun _ event hs ↦ ObjectRun.publishesFresh_iff hs event) hstart

/-- A pose is submitted while nobody owns the object, then ownership is gained. -/
def stalePoseRun : List (ObjectEvent ℚ) :=
  [.registerObject 7, .submitLocalPose 7 PoseTransform.default,
    .handleOwnershipChanged ⟨7, 1, 0⟩, .tick 0 10]

/-- **A pose from before the period is published.** -/
theorem stale_pose_published :
    ¬Along ObjectRun.step ObjectRun.PublishesFresh
      ({ manager := { localClientNo := 1 } } : ObjectRun ℚ) stalePoseRun := by
  rintro ⟨-, -, -, hfresh, -⟩
  have hpublished : ((List.foldl ObjectRun.step { manager := { localClientNo := 1 } }
      (stalePoseRun.take 3)).published (0 : ℚ) 10).map Prod.fst = [7] := by decide +kernel
  have hsince : (List.foldl ObjectRun.step { manager := { localClientNo := 1 } }
      (stalePoseRun.take 3)).since 7 = [] := by decide +kernel
  obtain ⟨sent, hsent, hid⟩ := List.mem_map.mp (hpublished ▸ List.mem_singleton_self 7)
  obtain ⟨pose, hpose, -⟩ := hfresh sent hsent
  rw [hid] at hpose
  exact List.ne_nil_of_mem hpose hsince

end StylyNetSync
