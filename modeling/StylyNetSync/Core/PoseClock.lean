import StylyNetSync.Core.NetSyncClient
import StylyNetSync.Foundation.ExactDouble
import StylyNetSync.Foundation.Heartbeat
import StylyNetSync.Foundation.Run

/-!
# The clock of the local pose

The client publishes its avatar on change, with a heartbeat. Of all that a session does, only a few
steps touch the fields that decide when: a poll, the two calls that set and clear the pose, and the
one that sets the rate. In exact arithmetic the session then refines a `Heartbeat` of pose
signatures (`refines_run`): what it hands to the transport is what the heartbeat publishes.
-/

namespace StylyNetSync

/-! ### What the pose hangs on -/

/-- The fields of a client that the publication of its pose reads and writes. -/
structure PosePart (D : Type) where
  stealthMode : Bool
  deviceId : Bytes
  transformSendRate : D
  localPose : Option (ClientPoseBody D)
  localPoseSeq : UInt16
  lastPoseSendTime : D
  lastPoseChangeSendTime : D
  lastPoseSignature : Option Bytes

def NetSyncClient.posePart {D : Type} (c : NetSyncClient D) : PosePart D where
  stealthMode := c.config.stealthMode
  deviceId := c.config.deviceId
  transformSendRate := c.config.transformSendRate
  localPose := c.localPose
  localPoseSeq := c.localPoseSeq
  lastPoseSendTime := c.lastPoseSendTime
  lastPoseChangeSendTime := c.lastPoseChangeSendTime
  lastPoseSignature := c.lastPoseSignature

/-- The least time between two looks at the pose. -/
def poseInterval {D : Type} [Double D] (transformSendRate : D) : D :=
  Double.lit 1 / Double.max (Double.lit (1 / 2)) transformSendRate

namespace PosePart

variable {D : Type} [Double D] [RealValued D]

open RealValued

/-- The clock of the pose, in real time. -/
def clock (part : PosePart D) : Heartbeat ℝ Bytes where
  looked := toReal part.lastPoseSendTime
  published := toReal part.lastPoseChangeSendTime
  last := part.lastPoseSignature

/-- The time between two looks, in real time. -/
def interval (part : PosePart D) : ℝ := toReal (poseInterval part.transformSendRate)

theorem interval_pos (part : PosePart D) : 0 < part.interval := by
  have hrate : 0 < toReal (Double.max (Double.lit (1 / 2)) part.transformSendRate) :=
    toReal_max_pos (by rw [toReal_lit]; norm_num)
  rw [interval, poseInterval, toReal_div, toReal_lit]
  exact div_pos (by norm_num) hrate

end PosePart

namespace Session

section Frame

variable {D : Type}

theorem posePart_setState (state : ConnectionState) (s : Session D) :
    (s.setState state).client.posePart = s.client.posePart := by
  rw [setState]
  split <;> rfl

theorem posePart_processDeviceIdMapping (message : DeviceIdMappingMessage) (s : Session D) :
    (s.processDeviceIdMapping message).client.posePart = s.client.posePart := by
  rw [processDeviceIdMapping]
  dsimp only
  split <;> split <;> rfl

variable [Double D]

theorem posePart_startTransport (s : Session D) :
    s.startTransport.client.posePart = s.client.posePart := by
  rw [startTransport]
  dsimp only
  split <;> rfl

theorem posePart_handleNotification (s : Session D) (notification : Notification) :
    (s.handleNotification notification).client.posePart = s.client.posePart := by
  cases notification with
  | connected => exact posePart_setState _ s
  | error text => exact posePart_setState _ s
  | log text => rfl
  | discovered server => exact posePart_startTransport _

theorem posePart_drainInternalEvents (s : Session D) :
    s.drainInternalEvents.client.posePart = s.client.posePart := by
  have hfold (notifications : List Notification) (s : Session D) :
      (notifications.foldl handleNotification s).client.posePart = s.client.posePart :=
    List.foldlRecOn (motive := fun s' : Session D ↦ s'.client.posePart = s.client.posePart)
      notifications _ rfl fun s' h notification _ ↦
        (posePart_handleNotification s' notification).trans h
  exact hfold _ _

theorem posePart_greet (now : D) (s : Session D) :
    (s.greet now).client.posePart = s.client.posePart := by
  rw [greet]
  split
  · dsimp only
    rw [enqueueHello]
    generalize Shared.tryEnqueueControl (D := D) _ _ = result
    obtain ⟨accepted, w⟩ := result
    cases accepted with
    | true =>
      dsimp only
      split
      · exact posePart_setState _ _
      · rfl
    | false =>
      dsimp only
      split
      · exact posePart_setState _ _
      · rfl
  · rfl

theorem posePart_processControlPayload (decode : Bytes → Option (List Bytes)) (s : Session D)
    (payload : Bytes) :
    (s.processControlPayload decode payload).client.posePart = s.client.posePart := by
  rw [processControlPayload]
  split_ifs
  · split
    · rfl
    · exact posePart_processDeviceIdMapping _ s
  · split
    · rfl
    · rw [processRpc]
      split <;> rfl
  all_goals first | rfl | (split <;> rfl)

theorem posePart_processRoomObjects (payload : Bytes) (s : Session D) :
    (s.processRoomObjects payload).client.posePart = s.client.posePart := by
  rw [processRoomObjects]
  split <;> rfl

theorem posePart_updateReady (s : Session D) :
    s.updateReady.client.posePart = s.client.posePart := by
  rw [updateReady]
  split
  · rfl
  · have hclient : s.isReady.2.client = s.client := rfl
    rcases hready : s.isReady with ⟨ready, s₁⟩
    rw [hready] at hclient
    rw [← hclient]
    cases ready with
    | true =>
      dsimp only
      split
      · exact posePart_setState _ s₁
      · exact posePart_setState _ s₁
    | false =>
      dsimp only
      split
      · exact posePart_setState _ s₁
      · rfl

end Frame

variable {D : Type} [DoubleTrig D]

theorem posePart_processRoomPose (payload : Bytes) (s : Session D) :
    (s.processRoomPose payload).client.posePart = s.client.posePart := by
  rw [processRoomPose]
  split
  · rfl
  · split <;> rfl

theorem posePart_processMail (decode : Bytes → Option (List Bytes)) (mail : Shared.Mail)
    (s : Session D) : (s.processMail decode mail).client.posePart = s.client.posePart := by
  have hcontrol (s : Session D) :
      (mail.control.foldl (processControlPayload decode) s).client.posePart = s.client.posePart :=
    List.foldlRecOn (motive := fun s' : Session D ↦ s'.client.posePart = s.client.posePart)
      mail.control _ rfl fun s' h payload _ ↦
        (posePart_processControlPayload decode s' payload).trans h
  rw [processMail]
  rcases mail.roomPose with - | pose
  · rcases mail.roomObjects with - | objects
    · exact hcontrol s
    · exact (posePart_processRoomObjects objects _).trans (hcontrol s)
  · have hpose := (hcontrol (s.processRoomPose pose)).trans (posePart_processRoomPose pose s)
    rcases mail.roomObjects with - | objects
    · exact hpose
    · exact (posePart_processRoomObjects objects _).trans hpose

theorem posePart_drainInbox (decode : Bytes → Option (List Bytes)) (s : Session D) :
    (s.drainInbox decode).client.posePart = s.client.posePart :=
  posePart_processMail decode _ _

/-! ### The decision -/

theorem outgoingPose_congr {c c' : NetSyncClient D} (h : c.posePart = c'.posePart) :
    outgoingPose c = outgoingPose c' := by
  have houtgoing (c : NetSyncClient D) : outgoingPose c =
      if c.posePart.stealthMode then some { ClientPoseBody.default with flags := PoseFlag.stealth }
      else c.posePart.localPose := rfl
  rw [houtgoing, houtgoing, h]

/-- What `sendLocalPoseIfDue` hands to the transport. -/
def posePublication (now : D) (s : Session D) : Option (ClientPoseMessage D) :=
  let c := s.client
  match s.shared.isConnected.1, outgoingPose c with
  | true, some body =>
    if Double.lt (now - c.lastPoseSendTime) (poseInterval c.config.transformSendRate) then none
    else if c.lastPoseSignature = some (poseSignature body) &&
        Double.lt (now - c.lastPoseChangeSendTime) kPoseHeartbeatSeconds then none
    else some { deviceId := c.config.deviceId, body := { body with poseSeq := c.localPoseSeq + 1 } }
  | _, _ => none

/-- The transport gets nothing else. -/
theorem shared_sendLocalPoseIfDue (now : D) (s : Session D) :
    (s.sendLocalPoseIfDue now).shared =
      match s.posePublication now with
      | none => s.shared.isConnected.2
      | some message =>
        s.shared.isConnected.2.setLatestTransform (serializeClientPose message) := by
  rw [sendLocalPoseIfDue, posePublication]
  rcases s.shared.isConnected with ⟨- | -, w⟩
  · rfl
  · dsimp only
    rcases outgoingPose s.client with - | body
    · rfl
    · dsimp only
      rw [poseInterval]
      split
      · rfl
      · split <;> rfl

/-- **What becomes of a pose** while the transport is up: it is too early, or the pose is unchanged
and rests, or it is published. -/
theorem sendLocalPoseIfDue_cases (now : D) {s : Session D} {body : ClientPoseBody D}
    (hconnected : s.shared.isConnected.1 = true) (hpose : outgoingPose s.client = some body) :
    let part := s.client.posePart
    let sent := (s.sendLocalPoseIfDue now).client.posePart
    (Double.lt (now - part.lastPoseSendTime) (poseInterval part.transformSendRate) = true ∧
        sent = part ∧ s.posePublication now = none) ∨
      Double.lt (now - part.lastPoseSendTime) (poseInterval part.transformSendRate) = false ∧
        ((part.lastPoseSignature = some (poseSignature body) ∧
            Double.lt (now - part.lastPoseChangeSendTime) kPoseHeartbeatSeconds = true ∧
            sent = { part with lastPoseSendTime := now } ∧ s.posePublication now = none) ∨
          ((part.lastPoseSignature = some (poseSignature body) →
              Double.lt (now - part.lastPoseChangeSendTime) kPoseHeartbeatSeconds = false) ∧
            sent =
              { part with
                localPoseSeq := part.localPoseSeq + 1
                lastPoseSendTime := now
                lastPoseChangeSendTime := now
                lastPoseSignature := some (poseSignature body) } ∧
            s.posePublication now =
              some ⟨part.deviceId, { body with poseSeq := part.localPoseSeq + 1 }⟩)) := by
  dsimp only
  rw [sendLocalPoseIfDue, posePublication]
  rcases hlook : s.shared.isConnected with ⟨connected, w⟩
  rw [hlook] at hconnected
  obtain rfl : connected = true := hconnected
  dsimp only
  rw [hpose]
  dsimp only
  rw [← poseInterval]
  split
  · next hearly => exact .inl ⟨hearly, rfl, rfl⟩
  · next hlate =>
    refine .inr ⟨(Bool.not_eq_true _).mp hlate, ?_⟩
    split
    · next hquiet =>
      obtain ⟨hlast, hlt⟩ := Bool.and_eq_true_iff.mp hquiet
      exact .inl ⟨of_decide_eq_true hlast, hlt, rfl, rfl⟩
    · next hloud =>
      refine .inr ⟨fun hlast ↦ (Bool.not_eq_true _).mp fun hlt ↦ hloud ?_, rfl, rfl⟩
      exact Bool.and_eq_true_iff.mpr ⟨decide_eq_true hlast, hlt⟩

/-- Without a pose nothing happens. -/
theorem sendLocalPoseIfDue_none (now : D) {s : Session D} (hpose : outgoingPose s.client = none) :
    (s.sendLocalPoseIfDue now).client.posePart = s.client.posePart ∧
      s.posePublication now = none := by
  rw [sendLocalPoseIfDue, posePublication]
  rcases s.shared.isConnected with ⟨- | -, w⟩
  · exact ⟨rfl, rfl⟩
  · dsimp only
    rw [hpose]
    exact ⟨rfl, rfl⟩

/-- The end of a poll, behind the pose. -/
def afterPose (now : D) (s : Session D) : Session D :=
  ((s.tickObjects now).checkInitialSyncTimeout now).updateReady

theorem posePart_afterPose (now : D) (s : Session D) :
    (s.afterPose now).client.posePart = s.client.posePart :=
  (posePart_updateReady _).trans rfl

variable [DoubleText D]

theorem posePart_flushRpc (now : D) (s : Session D) :
    ((s.tickVariables now).flushRpc now).client.posePart = s.client.posePart := by
  show s.client.posePart = s.client.posePart
  rfl

/-- A poll up to the point where the pose comes up. -/
def untilPose (decode : Bytes → Option (List Bytes)) (now : D) (s : Session D) : Session D :=
  ((((({ s with events := [] } : Session D).drainInternalEvents.greet now).drainInbox
    decode).tickVariables now).flushRpc now)

theorem posePart_untilPose (decode : Bytes → Option (List Bytes)) (now : D) (s : Session D) :
    (s.untilPose decode now).client.posePart = s.client.posePart := by
  rw [untilPose, posePart_flushRpc, posePart_drainInbox, posePart_greet,
    posePart_drainInternalEvents]

theorem poll_eq (decode : Bytes → Option (List Bytes)) (now : D) {s : Session D}
    (hstate : s.client.state ≠ .disconnected) :
    (s.poll decode now).2 = ((s.untilPose decode now).sendLocalPoseIfDue now).afterPose now := by
  rw [poll, if_neg hstate]
  dsimp only
  rw [flush, untilPose, afterPose]

/-! ### Steps of a session -/

/-- A pose that was handed to the transport, with the time of the poll. -/
structure PosePublished (D : Type) where
  time : D
  message : ClientPoseMessage D

/-- The session when a call begins during which the other threads take these steps. -/
def scheduled (schedule : List (List (NetworkStep D))) (s : Session D) : Session D :=
  { s with shared := { s.shared with schedule := schedule } }

/-- The pose that a step hands to the transport. -/
def published (decode : Bytes → Option (List Bytes)) (s : Session D) :
    SessionStep D → Option (PosePublished D)
  | .call (.poll now) schedule =>
    let s := s.scheduled schedule
    if s.client.state = .disconnected then none
    else ((s.untilPose decode now).posePublication now).map (PosePublished.mk now)
  | _ => none

/-- The poses that a run hands to the transport. -/
def publications (decode : Bytes → Option (List Bytes)) :
    Session D → List (SessionStep D) → List (PosePublished D)
  | _, [] => []
  | s, step :: steps =>
    (s.published decode step).toList ++ publications decode (s.step decode step) steps

/-- A poll finds the transport up, and the send rate stays what it is. -/
def TransportUp (decode : Bytes → Option (List Bytes)) (s : Session D) : SessionStep D → Prop
  | .call (.poll now) schedule =>
    (s.scheduled schedule).client.state ≠ .disconnected ∧
      ((s.scheduled schedule).untilPose decode now).shared.isConnected.1 = true
  | .call (.setTransformSendRate _) _ => False
  | _ => True

variable [RealValued D]

open RealValued

/-- What a step is for the clock. -/
def poseEvents (s : Session D) : SessionStep D → List (HeartbeatEvent ℝ Bytes)
  | .call (.poll now) _ =>
    (outgoingPose s.client).toList.map fun body ↦ .offer (toReal now) (poseSignature body)
  | .call .clearLocalPose _ => [.forget]
  | _ => []

/-- A publication as the clock sees it. -/
def stamp (a : PosePublished D) : ℝ × Bytes := (toReal a.time, poseSignature a.message.body)

/-- The clock runs on as a heartbeat does, and the sequence numbers count the publications. -/
structure Refines (part part' : PosePart D) (events : List (HeartbeatEvent ℝ Bytes))
    (a : Option (PosePublished D)) : Prop where
  clock : part'.clock = events.foldl (Heartbeat.step part.interval 1) part.clock
  publications : a.toList.map stamp = part.clock.publications part.interval 1 events
  interval : part'.interval = part.interval
  deviceId : part'.deviceId = part.deviceId
  message : ∀ b ∈ a, b.message.deviceId = part.deviceId ∧
    b.message.body.poseSeq = part.localPoseSeq + 1
  localPoseSeq : part'.localPoseSeq = part.localPoseSeq + UInt16.ofNat a.toList.length

omit [DoubleText D] in
theorem Refines.of_eq {part part' : PosePart D} (h : part' = part) : Refines part part' [] none :=
  h ▸ ⟨rfl, rfl, rfl, rfl, by simp, (UInt16.add_zero _).symm⟩

omit [DoubleText D] in
theorem Refines.offer {part part' : PosePart D} {now : D} {body : ClientPoseBody D}
    {a : Option (PosePublished D)}
    (hclock : part'.clock =
      part.clock.step part.interval 1 (.offer (toReal now) (poseSignature body)))
    (hpublication : a.map stamp =
      part.clock.publication part.interval 1 (.offer (toReal now) (poseSignature body)))
    (hinterval : part'.interval = part.interval) (hdeviceId : part'.deviceId = part.deviceId)
    (hmessage : ∀ b ∈ a, b.message.deviceId = part.deviceId ∧
      b.message.body.poseSeq = part.localPoseSeq + 1)
    (hseq : part'.localPoseSeq = part.localPoseSeq + UInt16.ofNat a.toList.length) :
    Refines part part' [.offer (toReal now) (poseSignature body)] a where
  clock := hclock
  publications := by
    rw [Heartbeat.publications, Heartbeat.publications, List.append_nil, ← hpublication]
    cases a <;> rfl
  interval := hinterval
  deviceId := hdeviceId
  message := hmessage
  localPoseSeq := hseq

omit [DoubleText D] in
/-- **The pose refines the clock.** -/
theorem refines_sendLocalPoseIfDue (now : D) {s : Session D}
    (hconnected : s.shared.isConnected.1 = true) :
    Refines s.client.posePart (s.sendLocalPoseIfDue now).client.posePart
      (s.poseEvents (.call (.poll now) []))
      ((s.posePublication now).map (PosePublished.mk now)) := by
  rcases hpose : outgoingPose s.client with - | body
  · obtain ⟨hpart, hnone⟩ := sendLocalPoseIfDue_none now hpose
    rw [poseEvents, hpose, hnone]
    exact Refines.of_eq hpart
  · rw [poseEvents, hpose]
    obtain ⟨part, hpart⟩ : ∃ part, part = s.client.posePart := ⟨_, rfl⟩
    have hcases := sendLocalPoseIfDue_cases now hconnected hpose
    dsimp only at hcases
    rw [← hpart] at hcases ⊢
    have hearlyIff : Double.lt (now - part.lastPoseSendTime)
        (poseInterval part.transformSendRate) = true ↔
        part.clock.early part.interval (toReal now) := by
      rw [lt_iff, toReal_sub]
      rfl
    have hquietIff : Double.lt (now - part.lastPoseChangeSendTime) kPoseHeartbeatSeconds = true ↔
        toReal now - part.clock.published < 1 := by
      rw [lt_iff, toReal_sub, kPoseHeartbeatSeconds, toReal_lit, Rat.cast_one]
      rfl
    obtain ⟨hearly, hsent, hnone⟩ | ⟨hlate, hcases⟩ := hcases
    · have hearly' := hearlyIff.mp hearly
      rw [hsent, hnone]
      refine Refines.offer ?_ ?_ rfl rfl (by simp) (UInt16.add_zero _).symm
      · rw [Heartbeat.step, if_pos hearly']
      · rw [Heartbeat.publication, if_pos hearly']
        rfl
    · have hlate' : ¬part.clock.early part.interval (toReal now) := fun h ↦ by
        rw [hearlyIff.mpr h] at hlate
        exact absurd hlate (by decide)
      obtain ⟨hlast, hquiet, hsent, hnone⟩ | ⟨hloud, hsent, hsome⟩ := hcases
      · have hquiet' : part.clock.quiet 1 (toReal now) (poseSignature body) :=
          ⟨hlast, hquietIff.mp hquiet⟩
        rw [hsent, hnone]
        refine Refines.offer ?_ ?_ rfl rfl (by simp) (UInt16.add_zero _).symm
        · rw [Heartbeat.step, if_neg hlate', if_pos hquiet']
          rfl
        · rw [Heartbeat.publication, if_neg hlate', if_pos hquiet']
          rfl
      · have hloud' : ¬part.clock.quiet 1 (toReal now) (poseSignature body) := fun h ↦ by
          have hlt := hloud h.1
          rw [hquietIff.mpr h.2] at hlt
          exact absurd hlt (by decide)
        rw [hsent, hsome]
        refine Refines.offer ?_ ?_ rfl rfl (by simp) rfl
        · rw [Heartbeat.step, if_neg hlate', if_neg hloud']
          rfl
        · rw [Heartbeat.publication, if_neg hlate', if_neg hloud']
          rfl

/-- **A step refines the clock.** -/
theorem refines_step (decode : Bytes → Option (List Bytes)) (s : Session D) (step : SessionStep D)
    (hup : s.TransportUp decode step) :
    Refines s.client.posePart (s.step decode step).client.posePart (s.poseEvents step)
      (s.published decode step) := by
  cases step with
  | network step => exact Refines.of_eq rfl
  | call call schedule =>
    cases call with
    | poll now =>
      obtain ⟨hstate, hconnected⟩ := hup
      have hrefines := refines_sendLocalPoseIfDue now hconnected
      have huntil := posePart_untilPose decode now (s.scheduled schedule)
      have hafter : (s.step decode (.call (.poll now) schedule)).client.posePart =
          (((s.scheduled schedule).untilPose decode now).sendLocalPoseIfDue
            now).client.posePart := by
        show ((s.scheduled schedule).poll decode now).2.client.posePart = _
        rw [poll_eq decode now hstate, posePart_afterPose]
      have hevents : s.poseEvents (.call (.poll now) schedule) =
          ((s.scheduled schedule).untilPose decode now).poseEvents (.call (.poll now) []) := by
        rw [poseEvents, poseEvents, outgoingPose_congr huntil]
        rfl
      rw [hafter, hevents, published, if_neg hstate]
      rwa [huntil] at hrefines
    | setTransformSendRate rate => exact hup.elim
    | clearLocalPose => exact ⟨rfl, rfl, rfl, rfl, by simp [published], (UInt16.add_zero _).symm⟩
    | setLocalPose body =>
      exact ⟨rfl, rfl, rfl, rfl, by simp [published], (UInt16.add_zero _).symm⟩
    | setGlobalVariable name value => exact Refines.of_eq rfl
    | setClientVariable name value => exact Refines.of_eq rfl
    | setClientVariableFor target name value => exact Refines.of_eq rfl
    | clearMyClientVariables => exact Refines.of_eq rfl
    | requestObjectOwnership objectId => exact Refines.of_eq rfl
    | releaseObjectOwnership objectId => exact Refines.of_eq rfl
    | rpc functionName args => exact Refines.of_eq rfl
    | rpcTo target functionName args => exact Refines.of_eq rfl
    | rpcToMany targets functionName args => exact Refines.of_eq rfl
    | configureRpcRateLimit rpcLimit windowSeconds warnCooldown => exact Refines.of_eq rfl
    | registerObject objectId => exact Refines.of_eq rfl
    | unregisterObject objectId => exact Refines.of_eq rfl
    | submitObjectPose objectId pose => exact Refines.of_eq rfl

/-! ### Runs -/

/-- What a run is for the clock. -/
def runEvents (decode : Bytes → Option (List Bytes)) :
    Session D → List (SessionStep D) → List (HeartbeatEvent ℝ Bytes)
  | _, [] => []
  | s, step :: steps => s.poseEvents step ++ runEvents decode (s.step decode step) steps

theorem runEvents_append (decode : Bytes → Option (List Bytes)) (s : Session D)
    (steps more : List (SessionStep D)) :
    s.runEvents decode (steps ++ more) =
      s.runEvents decode steps ++ (steps.foldl (Session.step decode) s).runEvents decode more := by
  induction steps generalizing s with
  | nil => rfl
  | cons step steps ih =>
    rw [List.cons_append, runEvents, runEvents, ih, List.append_assoc, List.foldl_cons]

/-- The run refines the clock. -/
structure RunRefines (decode : Bytes → Option (List Bytes)) (s : Session D)
    (steps : List (SessionStep D)) : Prop where
  clock : (steps.foldl (Session.step decode) s).client.posePart.clock =
    (s.runEvents decode steps).foldl (Heartbeat.step s.client.posePart.interval 1)
      s.client.posePart.clock
  publications : (s.publications decode steps).map stamp =
    s.client.posePart.clock.publications s.client.posePart.interval 1 (s.runEvents decode steps)
  interval : (steps.foldl (Session.step decode) s).client.posePart.interval =
    s.client.posePart.interval
  deviceId : (steps.foldl (Session.step decode) s).client.posePart.deviceId =
    s.client.posePart.deviceId
  message : ∀ a ∈ s.publications decode steps, a.message.deviceId = s.client.posePart.deviceId
  counted : (∀ a ∈ (s.publications decode steps).head?,
      a.message.body.poseSeq = s.client.posePart.localPoseSeq + 1) ∧
    (s.publications decode steps).IsChain fun a b ↦
      b.message.body.poseSeq = a.message.body.poseSeq + 1

/-- **A run refines the clock.** -/
theorem refines_run (decode : Bytes → Option (List Bytes)) {s : Session D}
    {steps : List (SessionStep D)}
    (hup : Along (Session.step decode) (TransportUp decode) s steps) :
    RunRefines decode s steps := by
  induction steps generalizing s with
  | nil => exact ⟨rfl, rfl, rfl, rfl, by simp [publications], by simp [publications], .nil⟩
  | cons step steps ih =>
    have hstep := refines_step decode s step hup.1
    have hrest := ih hup.2
    refine ⟨?_, ?_, hrest.interval.trans hstep.interval, hrest.deviceId.trans hstep.deviceId,
      ?_, ?_⟩
    · rw [List.foldl_cons, hrest.clock, hstep.interval, hstep.clock, runEvents, List.foldl_append]
    · rw [Session.publications, List.map_append, hstep.publications, hrest.publications,
        hstep.interval, hstep.clock, runEvents, Heartbeat.publications_append]
    · intro a ha
      rw [Session.publications] at ha
      rcases List.mem_append.mp ha with ha | ha
      · exact (hstep.message a (Option.mem_toList.mp ha)).1
      · exact (hrest.message a ha).trans hstep.deviceId
    · have hseq := hstep.localPoseSeq
      rw [Session.publications]
      rcases hpublished : s.published decode step with - | a <;> rw [hpublished] at hseq
      · rw [show s.client.posePart.localPoseSeq = _ from (hseq.trans (UInt16.add_zero _)).symm]
        exact hrest.counted
      · have ha := (hstep.message a hpublished).2
        refine ⟨fun b hb ↦ ?_, List.isChain_cons.mpr ⟨fun b hb ↦ ?_, hrest.counted.2⟩⟩
        · rw [← Option.some.inj hb]
          exact ha
        · rw [hrest.counted.1 b hb, hseq, ha]
          rfl

end Session

end StylyNetSync
