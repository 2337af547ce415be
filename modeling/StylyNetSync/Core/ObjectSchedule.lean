import StylyNetSync.Core.ObjectMachine
import StylyNetSync.Foundation.Pacing

/-!
# When objects are published

The marks of an object are what happens to its publication in a run of the manager: it is published,
this client gains it by an ownership message, or the record of it is cleared. Marks in between are
all that matters for what comes next. Publications keep the send interval, and the same pose keeps
the heartbeat interval, unless there is a fresh start in between; the sequence numbers count the
publications since the record was cleared, whoever owned the object meanwhile; and whenever a tick
finds an owned object that has a pose, the pose is published or the last mark is a publication that
holds it back.
-/

namespace StylyNetSync

inductive ObjectMark (D : Type)
  | cleared
  | gained
  | published (now transformSendRate : D) (deviceId : Bytes) (seq : UInt16) (pose : PoseTransform D)

variable {D : Type} [Double D]

/-- Objects are paced by the send interval and the heartbeat. -/
def objectPacing : Pacing D D (PoseTransform D) where
  early := fun now sent interval ↦ Double.lt (now - sent) interval
  same := posesEqual
  period := kHeartbeatIntervalSeconds
  never := kNeverSent

namespace ObjectMark

/-- Gaining and clearing are fresh starts alike. -/
def paced : ObjectMark D → PacingMark D D (PoseTransform D)
  | .published now transformSendRate _ _ pose =>
    .published now (ObjectSyncManager.sendIntervalOf transformSendRate) pose
  | _ => .fresh

/-- The number of the last publication, after a mark. -/
def seqAfter (seq : UInt16) : ObjectMark D → UInt16
  | .cleared => 0
  | .gained => seq
  | .published _ _ _ seq _ => seq

/-- A publication has the number after the last one. -/
def Numbered (seq : UInt16) : ObjectMark D → Prop
  | .published _ _ _ next _ => next = seq + 1
  | _ => True

/-- Two publications one after the other: the send interval has passed, and the heartbeat interval
if the pose is the same. -/
def Spaced : ObjectMark D → ObjectMark D → Prop
  | .published sent _ _ _ last, .published now transformSendRate _ _ pose =>
    Double.lt (now - sent) (ObjectSyncManager.sendIntervalOf transformSendRate) = false ∧
      (posesEqual pose last = true → Double.lt (now - sent) kHeartbeatIntervalSeconds = false)
  | _, _ => True

/-- A pose is held back by a publication: the send interval has not passed, or the pose is the same
and the heartbeat interval has not. -/
def Holds (now transformSendRate : D) (pose : PoseTransform D) : ObjectMark D → Prop
  | .published sent _ _ _ last =>
    Double.lt (now - sent) (ObjectSyncManager.sendIntervalOf transformSendRate) = true ∨
      posesEqual pose last = true ∧ Double.lt (now - sent) kHeartbeatIntervalSeconds = true
  | _ => False

theorem spaced_paced {a b : ObjectMark D} : objectPacing.Spaced a.paced b.paced ↔ Spaced a b := by
  cases a <;> cases b <;> exact Iff.rfl

theorem held_paced {now transformSendRate : D} {pose : PoseTransform D} {mark : ObjectMark D} :
    objectPacing.Held now (ObjectSyncManager.sendIntervalOf transformSendRate) pose mark.paced ↔
      mark.Holds now transformSendRate pose := by
  cases mark <;> exact Iff.rfl

/-- What a mark hands to the transform sender. -/
def payload (id : UInt32) : ObjectMark D → Option (UInt32 × Bytes)
  | .published _ _ deviceId seq pose =>
    some (id, ObjectSyncManager.posePayload deviceId id seq pose)
  | _ => none

end ObjectMark

/-! ### One object -/

namespace ObjectEntry

/-- What paces an object; one that is not registered starts afresh. -/
def pacer (entry : Option (ObjectEntry D)) : Pacer D (PoseTransform D) :=
  entry.elim ⟨kNeverSent, none⟩ fun entry ↦ ⟨entry.lastSendTime, entry.lastSentPose⟩

omit [Double D] in
/-- The number of the last publication. -/
def seq (entry : Option (ObjectEntry D)) : UInt16 := entry.elim 0 sendPoseSeq

/-- The pose an owner would publish. -/
def offered (localClientNo : ℤ) (entry : ObjectEntry D) : Option (PoseTransform D) :=
  if entry.state.ownerClientNo ≠ localClientNo then none else entry.localPose

theorem duePose_eq (localClientNo : ℤ) (now sendInterval : D) (entry : ObjectEntry D) :
    ObjectSyncManager.duePose localClientNo now sendInterval entry =
      (entry.offered localClientNo).filter
        (objectPacing.due (pacer (some entry)) now sendInterval) := by
  rw [ObjectSyncManager.duePose, offered]
  split
  · rfl
  · rcases entry.localPose with - | pose
    · rfl
    · rw [Option.filter_some]
      dsimp only
      split
      · next hearly =>
        rw [if_neg]
        simp [Pacing.due, objectPacing, pacer, hearly]
      · next hlate =>
        split
        · next hquiet =>
          rw [if_neg]
          simp only [Pacing.due, objectPacing, pacer, Option.elim_some, hquiet]
          simp
        · next hloud =>
          rw [if_pos]
          simp only [Pacing.due, objectPacing, pacer, Option.elim_some, hlate, hloud]
          rfl

end ObjectEntry

namespace ObjectCall

/-- The mark a call leaves on an object. -/
def markOn (identity : ℤ × Bytes) (id : UInt32) (entry : Option (ObjectEntry D)) :
    ObjectCall D → Option (ObjectMark D)
  | .event (.handleOwnershipChanged message) =>
    if message.objectId = id ∧ entry.isSome ∧
        (message.newOwnerClientNo.toNat : ℤ) = identity.1 ∧ identity.1 ≠ 0 then
      some .gained
    else none
  | .event (.tick now transformSendRate) =>
    if identity.1 = 0 then none
    else
      entry.bind fun entry ↦
        (ObjectSyncManager.duePose identity.1 now
          (ObjectSyncManager.sendIntervalOf transformSendRate) entry).map
            (.published now transformSendRate identity.2 (entry.sendPoseSeq + 1))
  | .unregisterObject objectId => if objectId = id then some .cleared else none
  | .clearRoomScopedState => some .cleared
  | _ => none

/-- What a call is to the pacing of an object. -/
def pacing (identity : ℤ × Bytes) (id : UInt32) (entry : Option (ObjectEntry D)) :
    ObjectCall D → Option (PacingEvent D D (PoseTransform D))
  | .event (.tick now transformSendRate) =>
    if identity.1 = 0 then none
    else
      (entry.bind (ObjectEntry.offered identity.1)).map
        (.offer now (ObjectSyncManager.sendIntervalOf transformSendRate))
  | call => (call.markOn identity id entry).map fun _ ↦ .fresh

/-- A broadcast leaves the send record alone. -/
theorem onEntry_handleRoomObjects (localClientNo : ℤ) (id : UInt32)
    (entry : Option (ObjectEntry D)) (message : RoomObjectsMessage D) :
    let told := onEntry localClientNo id entry (.event (.handleRoomObjects message))
    ObjectEntry.pacer told = ObjectEntry.pacer entry ∧
      ObjectEntry.seq told = ObjectEntry.seq entry :=
  List.foldlRecOn
    (motive := fun told ↦ ObjectEntry.pacer told = ObjectEntry.pacer entry ∧
      ObjectEntry.seq told = ObjectEntry.seq entry)
    message.objects _ ⟨rfl, rfl⟩ fun told htold state _ ↦ by
      split
      · rcases told with - | told <;> exact htold
      · exact htold

/-- **One call to an object**: its pacing takes a step, which leaves the mark, and the numbers
follow. -/
theorem onEntry_spec (identity : ℤ × Bytes) (id : UInt32) (entry : Option (ObjectEntry D))
    (call : ObjectCall D) :
    ObjectEntry.pacer (call.onEntry identity.1 id entry) =
        (call.pacing identity id entry).elim (ObjectEntry.pacer entry)
          (objectPacing.step (ObjectEntry.pacer entry)) ∧
      (call.markOn identity id entry).map ObjectMark.paced =
        (call.pacing identity id entry).bind (objectPacing.mark (ObjectEntry.pacer entry)) ∧
      ObjectEntry.seq (call.onEntry identity.1 id entry) =
        (call.markOn identity id entry).elim (ObjectEntry.seq entry)
          (ObjectMark.seqAfter (ObjectEntry.seq entry)) ∧
      ∀ mark ∈ call.markOn identity id entry, mark.Numbered (ObjectEntry.seq entry) := by
  cases call with
  | event event =>
    cases event with
    | registerObject objectId =>
      refine ⟨?_, rfl, ?_, fun _ h ↦ by simp [markOn] at h⟩
      · rw [onEntry]
        split
        · rcases entry with - | entry <;> rfl
        · rfl
      · rw [onEntry]
        split
        · rcases entry with - | entry <;> rfl
        · rfl
    | submitLocalPose objectId pose =>
      refine ⟨?_, rfl, ?_, fun _ h ↦ by simp [markOn] at h⟩
      · rw [onEntry]
        split
        · rcases entry with - | entry <;> rfl
        · rfl
      · rw [onEntry]
        split
        · rcases entry with - | entry <;> rfl
        · rfl
    | handleOwnershipChanged message =>
      rw [pacing, markOn, onEntry]
      · by_cases hid : message.objectId = id
        · rcases entry with - | entry
          · rw [if_pos hid, if_neg fun h ↦ by simp at h]
            exact ⟨rfl, rfl, rfl, fun _ h ↦ by simp at h⟩
          · rw [if_pos hid, Option.map_some, ObjectEntry.pass]
            by_cases hgained : (message.newOwnerClientNo.toNat : ℤ) = identity.1 ∧
                identity.1 ≠ 0
            · rw [if_pos hgained, if_pos ⟨hid, rfl, hgained⟩]
              refine ⟨rfl, rfl, rfl, fun mark hmark ↦ ?_⟩
              obtain rfl := Option.mem_some.mp hmark
              trivial
            · rw [if_neg hgained, if_neg fun h ↦ hgained h.2.2]
              exact ⟨rfl, rfl, rfl, fun _ h ↦ by simp at h⟩
        · rw [if_neg hid, if_neg fun h ↦ hid h.1]
          exact ⟨rfl, rfl, rfl, fun _ h ↦ by simp at h⟩
      · simp
    | handleRoomObjects message =>
      obtain ⟨hpacer, hseq⟩ := onEntry_handleRoomObjects identity.1 id entry message
      exact ⟨hpacer, rfl, hseq, fun _ h ↦ by simp [markOn] at h⟩
    | tick now transformSendRate =>
      rw [pacing, markOn, onEntry]
      by_cases hlocal : identity.1 = 0
      · rw [if_pos hlocal, if_pos hlocal, if_pos hlocal]
        exact ⟨rfl, rfl, rfl, fun _ h ↦ by simp at h⟩
      rw [if_neg hlocal, if_neg hlocal, if_neg hlocal]
      rcases entry with - | entry
      · exact ⟨rfl, rfl, rfl, fun _ h ↦ by simp at h⟩
      rw [Option.map_some, Option.bind_some, Option.bind_some, ObjectEntry.tick,
        ObjectEntry.duePose_eq]
      rcases entry.offered identity.1 with - | pose
      · exact ⟨rfl, rfl, rfl, fun _ h ↦ by simp at h⟩
      rw [Option.filter_some, Option.map_some, Option.elim_some, Option.bind_some, Pacing.step,
        Pacing.mark]
      by_cases hdue : objectPacing.due (ObjectEntry.pacer (some entry)) now
          (ObjectSyncManager.sendIntervalOf transformSendRate) pose = true
      · rw [if_pos hdue, if_pos hdue, if_pos hdue]
        refine ⟨rfl, rfl, rfl, fun mark hmark ↦ ?_⟩
        obtain rfl := Option.mem_some.mp hmark
        rfl
      · rw [if_neg hdue, if_neg hdue, if_neg hdue]
        exact ⟨rfl, rfl, rfl, fun _ h ↦ by simp at h⟩
  | unregisterObject objectId =>
    rw [onEntry, pacing, markOn]
    · split
      · refine ⟨rfl, rfl, rfl, fun mark hmark ↦ ?_⟩
        obtain rfl := Option.mem_some.mp hmark
        trivial
      · exact ⟨rfl, rfl, rfl, fun _ h ↦ by simp at h⟩
    · simp
  | setLocalIdentity clientNo deviceId => exact ⟨rfl, rfl, rfl, fun _ h ↦ by simp [markOn] at h⟩
  | clearRoomScopedState =>
    refine ⟨?_, rfl, ?_, fun mark hmark ↦ ?_⟩
    · rcases entry with - | entry <;> rfl
    · rcases entry with - | entry <;> rfl
    · obtain rfl := Option.mem_some.mp hmark
      trivial

end ObjectCall

/-! ### Runs -/

namespace ObjectSyncManager

variable {id : UInt32}

/-- The marks that calls leave on an object. -/
def marks (id : UInt32) : ObjectSyncManager D → List (ObjectCall D) → List (ObjectMark D)
  | _, [] => []
  | m, call :: calls =>
    (call.markOn m.identity id m.objects[id]?).toList ++ marks id (m.apply call) calls

/-- The same for the events of its pacing. -/
def pacings (id : UInt32) :
    ObjectSyncManager D → List (ObjectCall D) → List (PacingEvent D D (PoseTransform D))
  | _, [] => []
  | m, call :: calls =>
    (call.pacing m.identity id m.objects[id]?).toList ++ pacings id (m.apply call) calls

/-- What a call hands to the transform sender. -/
def handed (m : ObjectSyncManager D) : ObjectCall D → List (UInt32 × Bytes)
  | .event (.tick now transformSendRate) =>
    ({ manager := m } : ObjectRun D).published now transformSendRate
  | _ => []

/-- What calls hand to the transform sender. -/
def handedOver : ObjectSyncManager D → List (ObjectCall D) → List (UInt32 × Bytes)
  | _, [] => []
  | m, call :: calls => m.handed call ++ handedOver (m.apply call) calls

/-- **A run is a run of the pacing.** -/
theorem pacer_foldl (id : UInt32) (m : ObjectSyncManager D) (calls : List (ObjectCall D)) :
    ObjectEntry.pacer (calls.foldl apply m).objects[id]? =
        (m.pacings id calls).foldl objectPacing.step (ObjectEntry.pacer m.objects[id]?) ∧
      (m.marks id calls).map ObjectMark.paced =
        objectPacing.marks (ObjectEntry.pacer m.objects[id]?) (m.pacings id calls) := by
  induction calls generalizing m with
  | nil => exact ⟨rfl, rfl⟩
  | cons call calls ih =>
    obtain ⟨hpacer, hmark, -, -⟩ := call.onEntry_spec m.identity id m.objects[id]?
    obtain ⟨hstate, hmarks⟩ := ih (m.apply call)
    have hnext : ObjectEntry.pacer (m.apply call).objects[id]? =
        (call.pacing m.identity id m.objects[id]?).elim (ObjectEntry.pacer m.objects[id]?)
          (objectPacing.step (ObjectEntry.pacer m.objects[id]?)) := by
      rw [get?_apply]
      exact hpacer
    have hfirst : (call.markOn m.identity id m.objects[id]?).toList.map ObjectMark.paced =
        ((call.pacing m.identity id m.objects[id]?).bind
          (objectPacing.mark (ObjectEntry.pacer m.objects[id]?))).toList := by
      rw [← hmark]
      rcases call.markOn m.identity id m.objects[id]? with - | mark <;> rfl
    rw [List.foldl_cons, pacings, marks, List.map_append, hstate, hmarks, hnext, hfirst]
    rcases call.pacing m.identity id m.objects[id]? with - | event
    · exact ⟨rfl, rfl⟩
    · exact ⟨rfl, rfl⟩

/-- **The numbers count.** -/
theorem numbered (id : UInt32) (m : ObjectSyncManager D) (calls : List (ObjectCall D)) :
    Along ObjectMark.seqAfter (fun seq mark ↦ mark.Numbered seq) (ObjectEntry.seq m.objects[id]?)
      (m.marks id calls) := by
  induction calls generalizing m with
  | nil => trivial
  | cons call calls ih =>
    obtain ⟨-, -, hseq, hnumbered⟩ := call.onEntry_spec m.identity id m.objects[id]?
    have hrest := ih (m.apply call)
    have hnext : ObjectEntry.seq (m.apply call).objects[id]? =
        (call.markOn m.identity id m.objects[id]?).elim (ObjectEntry.seq m.objects[id]?)
          (ObjectMark.seqAfter (ObjectEntry.seq m.objects[id]?)) := by
      rw [get?_apply]
      exact hseq
    rw [hnext] at hrest
    rw [marks]
    rcases hmark : call.markOn m.identity id m.objects[id]? with - | mark
    · rw [hmark] at hrest
      exact hrest
    · rw [hmark] at hrest
      exact ⟨hnumbered mark hmark, hrest⟩

/-! ### What is handed over -/

/-- The mark of a call tells what is handed over for the object. -/
theorem filter_handed (id : UInt32) (m : ObjectSyncManager D) (call : ObjectCall D) :
    ((m.handed call).filter fun sent ↦ sent.1 = id) =
      ((call.markOn m.identity id m.objects[id]?).bind (ObjectMark.payload id)).toList := by
  cases call with
  | event event =>
    cases event with
    | tick now transformSendRate =>
      rw [handed, ObjectRun.published, (m.tick_spec now transformSendRate).2, ObjectCall.markOn]
      by_cases hlocal : m.localClientNo = 0
      · have hidentity : m.identity.1 = 0 := hlocal
        rw [if_pos hlocal, if_pos hidentity]
        rfl
      · have hidentity : m.identity.1 ≠ 0 := hlocal
        rw [if_neg hlocal, if_neg hidentity, OrderedMap.filter_filterMap_toList]
        · rcases m.objects[id]? with - | entry
          · rfl
          · rw [Option.bind_some, Option.bind_some, duePayload]
            have hidentity : m.identity.1 = m.localClientNo := rfl
            rw [hidentity]
            rcases duePose m.localClientNo now (sendIntervalOf transformSendRate) entry with
              - | pose
            · rfl
            · rfl
        · intro pair sent hsent
          obtain ⟨pose, -, rfl⟩ := Option.map_eq_some_iff.mp hsent
          rfl
    | handleOwnershipChanged message =>
      rw [handed, ObjectCall.markOn]
      · split <;> rfl
      · simp
    | _ => rfl
  | unregisterObject objectId =>
    rw [handed, ObjectCall.markOn]
    · split <;> rfl
    · simp
  | _ => rfl

theorem filter_handedOver (m : ObjectSyncManager D) (calls : List (ObjectCall D)) :
    ((m.handedOver calls).filter fun sent ↦ sent.1 = id) =
      (m.marks id calls).filterMap (ObjectMark.payload id) := by
  induction calls generalizing m with
  | nil => rfl
  | cons call calls ih =>
    rw [handedOver, marks, List.filter_append, List.filterMap_append, filter_handed, ih]
    rcases call.markOn m.identity id m.objects[id]? with - | mark
    · rfl
    · cases mark <;> rfl

/-- A call that is not about an object leaves no mark on it. -/
theorem markOn_about (id : UInt32) (identity : ℤ × Bytes) (entry : Option (ObjectEntry D))
    (call : ObjectCall D) :
    (call.about id).bind (ObjectCall.markOn identity id entry) = call.markOn identity id entry := by
  cases call with
  | event event =>
    cases event with
    | registerObject objectId =>
      rw [ObjectCall.about]
      split <;> rfl
    | submitLocalPose objectId pose =>
      rw [ObjectCall.about]
      split <;> rfl
    | handleOwnershipChanged message =>
      rw [ObjectCall.about]
      split
      · rfl
      · next hid => exact (if_neg fun h ↦ hid h.1).symm
    | _ => rfl
  | unregisterObject objectId =>
    rw [ObjectCall.about]
    split
    · rfl
    · next hid => exact (if_neg hid).symm
  | _ => rfl

/-- **Objects are published independently of each other.** -/
theorem marks_about {m m' : ObjectSyncManager D} (h : Alike id m m') (calls : List (ObjectCall D)) :
    m'.marks id (calls.filterMap (ObjectCall.about id)) = m.marks id calls := by
  induction calls generalizing m m' with
  | nil => rfl
  | cons call calls ih =>
    have hmark := markOn_about id m.identity m.objects[id]? call
    have hnext := h.apply call
    rw [marks, ← hmark]
    rcases habout : call.about id with - | about
    · rw [habout] at hnext
      rw [List.filterMap_cons_none habout]
      exact ih hnext
    · rw [habout] at hnext
      rw [List.filterMap_cons_some habout, marks, h.identity, h.entry, Option.bind_some]
      exact congrArg _ (ih hnext)

end ObjectSyncManager

/-! ### The schedule -/

open ObjectSyncManager in
/-- The schedule of an object in a run of the manager. -/
structure ObjectSchedule (id : UInt32) (m : ObjectSyncManager D) (calls : List (ObjectCall D)) :
    Prop where
  /-- The marks are all that is published of the object. -/
  handedOver :
    ((m.handedOver calls).filter fun sent ↦ sent.1 = id) =
      (m.marks id calls).filterMap (ObjectMark.payload id)
  spaced : (ObjectMark.cleared :: m.marks id calls).IsChain ObjectMark.Spaced
  numbered :
    Along ObjectMark.seqAfter (fun seq mark ↦ mark.Numbered seq) 0 (m.marks id calls)
  /-- A tick publishes the pose of an owned object unless the last mark holds it back. -/
  prompt : ∀ before now transformSendRate after,
    calls = before ++ .event (.tick now transformSendRate) :: after →
    ∀ pose, (before.foldl apply m).localClientNo ≠ 0 →
      ((before.foldl apply m).objects[id]?.bind
        (ObjectEntry.offered (before.foldl apply m).localClientNo)) = some pose →
      Double.lt (now - kNeverSent) (sendIntervalOf transformSendRate) = false →
      ((∃ seq, (id, posePayload (before.foldl apply m).localDeviceId id seq pose) ∈
          (before.foldl apply m).handed (.event (.tick now transformSendRate))) ↔
        ∀ mark ∈ (m.marks id before).getLast?, ¬mark.Holds now transformSendRate pose)
  /-- Calls about other objects make no difference. -/
  apart :
    m.marks id (calls.filterMap (ObjectCall.about id)) = m.marks id calls ∧
      Alike id (calls.foldl apply m) ((calls.filterMap (ObjectCall.about id)).foldl apply m)

namespace ObjectSyncManager

variable {id : UInt32} {m : ObjectSyncManager D}

/-- The last mark tells what paces the object. -/
theorem pacer_eq (hnone : m.objects[id]? = none) (calls : List (ObjectCall D)) :
    ObjectEntry.pacer (calls.foldl apply m).objects[id]? =
      objectPacing.after
        ((ObjectMark.cleared :: m.marks id calls).getLast (List.cons_ne_nil _ _)).paced := by
  obtain ⟨hpacer, hmarks⟩ := m.pacer_foldl id calls
  have hfirst : ObjectEntry.pacer m.objects[id]? = objectPacing.after .fresh := by
    rw [hnone]
    rfl
  rw [hfirst] at hpacer hmarks
  rw [hpacer, Pacing.foldl_step]
  congr 1
  simp only [← hmarks]
  exact List.getLast_map (f := ObjectMark.paced) (l := .cleared :: m.marks id calls)
    (h := List.cons_ne_nil _ _)

/-- What a tick does with the pose of an owned object. -/
theorem handed_tick_iff {now transformSendRate : D} {pose : PoseTransform D}
    (hlocal : m.localClientNo ≠ 0)
    (hoffered : m.objects[id]?.bind (ObjectEntry.offered m.localClientNo) = some pose) :
    (∃ seq, (id, posePayload m.localDeviceId id seq pose) ∈
        m.handed (.event (.tick now transformSendRate))) ↔
      objectPacing.due (ObjectEntry.pacer m.objects[id]?) now (sendIntervalOf transformSendRate)
        pose = true := by
  obtain ⟨entry, hentry, hpose⟩ := Option.bind_eq_some_iff.mp hoffered
  have hmark : (ObjectCall.event (.tick now transformSendRate)).markOn m.identity id
      m.objects[id]? =
        if objectPacing.due (ObjectEntry.pacer m.objects[id]?) now
            (sendIntervalOf transformSendRate) pose = true then
          some (.published now transformSendRate m.localDeviceId (entry.sendPoseSeq + 1) pose)
        else none := by
    have hidentity : m.identity.1 = m.localClientNo := rfl
    rw [ObjectCall.markOn, hidentity, if_neg hlocal, hentry, Option.bind_some,
      ObjectEntry.duePose_eq, hpose, Option.filter_some]
    split <;> rfl
  have hfilter := m.filter_handed id (.event (.tick now transformSendRate))
  rw [hmark] at hfilter
  constructor
  · rintro ⟨seq, hmem⟩
    by_contra hdue
    rw [if_neg hdue] at hfilter
    have hkept := List.mem_filter (p := fun sent ↦ sent.1 = id).mpr ⟨hmem, decide_eq_true rfl⟩
    rw [hfilter] at hkept
    simp at hkept
  · intro hdue
    rw [if_pos hdue] at hfilter
    refine ⟨entry.sendPoseSeq + 1, List.mem_of_mem_filter (p := fun sent ↦ sent.1 = id) ?_⟩
    rw [hfilter]
    exact List.mem_singleton_self _

/-- **The schedule of an object** that is not registered when the run begins. -/
theorem objectSchedule (hnone : m.objects[id]? = none) (calls : List (ObjectCall D)) :
    ObjectSchedule id m calls where
  handedOver := m.filter_handedOver calls
  spaced := by
    have hchain := objectPacing.isChain_marks .fresh (m.pacings id calls)
    have hmarks := (m.pacer_foldl id calls).2
    rw [hnone] at hmarks
    change _ = objectPacing.marks (objectPacing.after .fresh) _ at hmarks
    rw [← hmarks] at hchain
    change ((ObjectMark.cleared :: m.marks id calls).map ObjectMark.paced).IsChain _ at hchain
    rw [List.isChain_map] at hchain
    exact hchain.imp fun _ _ ↦ ObjectMark.spaced_paced.mp
  numbered := by
    have hnumbered := m.numbered id calls
    rw [hnone] at hnumbered
    exact hnumbered
  prompt := by
    rintro before now transformSendRate after rfl pose hlocal hoffered hnever
    rw [handed_tick_iff hlocal hoffered, pacer_eq hnone, Pacing.due_or_held _ hnever,
      ObjectMark.held_paced]
    rcases List.eq_nil_or_concat (m.marks id before) with hmarks | ⟨marks, mark, hmarks⟩
    · simp [hmarks, ObjectMark.Holds]
    · simp [hmarks]
  apart := ⟨marks_about (Alike.refl id m) calls, alike_foldl_about (Alike.refl id m) calls⟩

end ObjectSyncManager

end StylyNetSync
