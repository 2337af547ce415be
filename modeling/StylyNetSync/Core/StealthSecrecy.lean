import StylyNetSync.Core.ConnectionStates
import StylyNetSync.Core.IdentityWire
import StylyNetSync.Core.PoseClock

/-!
# A stealth client does not give its pose away

A stealth client has no avatar, but nothing keeps its host from setting a pose: the addon does so
every frame. What then must not happen is that the pose shows, in what goes to the transport or
anywhere else. Two sessions that are the same but for the pose are compared: every part of a client
commutes with putting another pose in place (`withPose`), the publication of the pose among them as
long as the client is a stealth one. Hence a life can be stripped of all its calls of
`set_local_pose`, and nobody can tell.
-/

namespace StylyNetSync

/-- A call that sets the local pose. -/
def LifeStep.setsPose {D : Type} : LifeStep D → Bool
  | .session (.call (.setLocalPose _) _) => true
  | _ => false

namespace Session

section Parts

variable {D : Type}

/-- The session with another local pose. -/
def withPose (pose : Option (ClientPoseBody D)) (s : Session D) : Session D :=
  { s with client := { s.client with localPose := pose } }

/-- The session with other steps to come from the other threads. -/
def withSchedule (schedule : List (List (NetworkStep D))) (s : Session D) : Session D :=
  { s with shared := { s.shared with schedule := schedule } }

variable (pose : Option (ClientPoseBody D))

theorem setState_withPose (state : ConnectionState) (s : Session D) :
    (s.withPose pose).setState state = (s.setState state).withPose pose := by
  show (if s.client.state = state then _ else _) = _
  rw [setState]
  split <;> rfl

theorem processDeviceIdMapping_withPose (message : DeviceIdMappingMessage) (s : Session D) :
    (s.withPose pose).processDeviceIdMapping message =
      (s.processDeviceIdMapping message).withPose pose := by
  rw [processDeviceIdMapping, processDeviceIdMapping]
  dsimp only [withPose]
  split <;> split <;> rfl

variable [Double D]

theorem startTransport_withPose (s : Session D) :
    (s.withPose pose).startTransport = s.startTransport.withPose pose := by
  rw [startTransport, startTransport]
  dsimp only [withPose]
  split <;> rfl

theorem drainInternalEvents_withPose (s : Session D) :
    (s.withPose pose).drainInternalEvents = s.drainInternalEvents.withPose pose := by
  have hone (s : Session D) (notification : Notification) :
      (s.withPose pose).handleNotification notification =
        (s.handleNotification notification).withPose pose := by
    cases notification with
    | connected => exact setState_withPose pose .connected s
    | error text =>
      rw [handleNotification, setState_withPose]
      rfl
    | log text => rfl
    | discovered server =>
      let found : Session D :=
        { s with
          client :=
            { s.client with
              resolvedAddress := server.address
              discoveredRestApiPort := server.restApiPort } }
      exact startTransport_withPose pose (found.emit (.serverDiscovered server))
  have hfold (notifications : List Notification) (s : Session D) :
      notifications.foldl handleNotification (s.withPose pose) =
        (notifications.foldl handleNotification s).withPose pose := by
    induction notifications generalizing s with
    | nil => rfl
    | cons notification notifications ih => rw [List.foldl_cons, hone, ih, List.foldl_cons]
  exact hfold _ { s with shared := s.shared.takeNotifications.2 }

theorem greet_withPose (now : D) (s : Session D) :
    (s.withPose pose).greet now = (s.greet now).withPose pose := by
  have hhello (s : Session D) : (s.withPose pose).enqueueHello = s.enqueueHello.withPose pose := by
    rcases hsend : s.shared.tryEnqueueControl s.client.helloMessage with ⟨ok, w⟩
    have hsend' : (s.withPose pose).shared.tryEnqueueControl
        (s.withPose pose).client.helloMessage = (ok, w) := hsend
    rw [enqueueHello, enqueueHello, hsend, hsend']
    cases ok <;> rfl
  by_cases hdue : s.client.state = .connected ∧ s.client.helloEnqueued = false
  · have hdue' : (s.withPose pose).client.state = .connected ∧
        (s.withPose pose).client.helloEnqueued = false := hdue
    let established : Session D :=
      { s with client := { s.client with
          networkVariables := s.client.networkVariables.onConnectionEstablished now } }
    have hafter := hhello established
    rw [greet, greet, if_pos hdue, if_pos hdue']
    show (if (established.withPose pose).enqueueHello.client.helloEnqueued then
      (established.withPose pose).enqueueHello.setState .synchronizing
        else (established.withPose pose).enqueueHello) =
      (if established.enqueueHello.client.helloEnqueued then
        established.enqueueHello.setState .synchronizing
          else established.enqueueHello).withPose pose
    rw [hafter]
    show (if established.enqueueHello.client.helloEnqueued then _ else _) = _
    split
    · exact setState_withPose pose .synchronizing _
    · rfl
  · have hdue' : ¬((s.withPose pose).client.state = .connected ∧
        (s.withPose pose).client.helloEnqueued = false) := hdue
    rw [greet, greet, if_neg hdue, if_neg hdue']

theorem processControlPayload_withPose (decode : Bytes → Option (List Bytes)) (payload : Bytes)
    (s : Session D) :
    (s.withPose pose).processControlPayload decode payload =
      (s.processControlPayload decode payload).withPose pose := by
  rw [processControlPayload, processControlPayload]
  split
  · split
    · rfl
    · exact processDeviceIdMapping_withPose pose _ s
  split
  · split
    · rfl
    · rw [processRpc, processRpc]
      split <;> rfl
  split
  · split <;> rfl
  split
  · split <;> rfl
  split
  · split <;> rfl
  split
  · split <;> rfl
  · rfl

theorem processRoomObjects_withPose (payload : Bytes) (s : Session D) :
    (s.withPose pose).processRoomObjects payload =
      (s.processRoomObjects payload).withPose pose := by
  rw [processRoomObjects, processRoomObjects]
  split <;> rfl

theorem updateReady_withPose (s : Session D) :
    (s.withPose pose).updateReady = s.updateReady.withPose pose := by
  by_cases hstate : s.client.state = .error ∨ s.client.state = .disconnected
  · have hstate' : (s.withPose pose).client.state = .error ∨
        (s.withPose pose).client.state = .disconnected := hstate
    rw [updateReady, updateReady, if_pos hstate, if_pos hstate']
  · have hstate' : ¬((s.withPose pose).client.state = .error ∨
        (s.withPose pose).client.state = .disconnected) := hstate
    rw [updateReady, updateReady, if_neg hstate, if_neg hstate']
    rcases hready : s.isReady with ⟨ready, s₁⟩
    have hready' : (s.withPose pose).isReady = (ready, s₁.withPose pose) := by
      obtain ⟨rfl, rfl⟩ := Prod.mk.inj hready
      rfl
    rw [hready']
    cases ready with
    | true =>
      dsimp only
      rw [setState_withPose]
      show (if (s₁.setState .ready).client.readyFired then _ else _) = _
      split <;> rfl
    | false =>
      dsimp only
      show (if s₁.client.state = .ready then _ else _) = _
      rw [setState_withPose]
      split <;> rfl

end Parts

section Poses

variable {D : Type} [DoubleTrig D] (pose : Option (ClientPoseBody D))

theorem processRoomPose_withPose (payload : Bytes) (s : Session D) :
    (s.withPose pose).processRoomPose payload = (s.processRoomPose payload).withPose pose := by
  rw [processRoomPose, processRoomPose]
  split
  · rfl
  · next message _ =>
    show (if message.roomId ≠ s.client.config.roomId then _ else _) = _
    split <;> rfl

theorem drainInbox_withPose (decode : Bytes → Option (List Bytes)) (s : Session D) :
    (s.withPose pose).drainInbox decode = (s.drainInbox decode).withPose pose := by
  have hcontrol (payloads : List Bytes) (s : Session D) :
      payloads.foldl (processControlPayload decode) (s.withPose pose) =
        (payloads.foldl (processControlPayload decode) s).withPose pose := by
    induction payloads generalizing s with
    | nil => rfl
    | cons payload payloads ih =>
      rw [List.foldl_cons, processControlPayload_withPose, ih, List.foldl_cons]
  have hmail (mail : Shared.Mail) (s : Session D) :
      (s.withPose pose).processMail decode mail = (s.processMail decode mail).withPose pose := by
    rw [processMail, processMail]
    rcases mail.roomPose with - | room
    · rcases mail.roomObjects with - | objects
      · exact hcontrol mail.control s
      · dsimp only
        rw [hcontrol, processRoomObjects_withPose]
    · dsimp only
      rw [processRoomPose_withPose, hcontrol]
      rcases mail.roomObjects with - | objects
      · rfl
      · exact processRoomObjects_withPose pose objects _
  exact hmail s.shared.takeMail.1 { s with shared := s.shared.takeMail.2 }

/-- **The publication of the pose.** A stealth client looks at another one. -/
theorem sendLocalPoseIfDue_withPose (now : D) {s : Session D}
    (hstealth : s.client.config.stealthMode = true) :
    (s.withPose pose).sendLocalPoseIfDue now = (s.sendLocalPoseIfDue now).withPose pose := by
  have houtgoing : outgoingPose s.client =
      some { ClientPoseBody.default with flags := PoseFlag.stealth } := if_pos hstealth
  have houtgoing' : outgoingPose (s.withPose pose).client =
      some { ClientPoseBody.default with flags := PoseFlag.stealth } := if_pos hstealth
  rcases hlook : s.shared.isConnected with ⟨connected, w⟩
  have hlook' : (s.withPose pose).shared.isConnected = (connected, w) := hlook
  rw [sendLocalPoseIfDue, sendLocalPoseIfDue, hlook, hlook']
  cases connected with
  | false => rfl
  | true =>
    dsimp only
    rw [houtgoing, houtgoing']
    dsimp only
    by_cases hearly : Double.lt (now - s.client.lastPoseSendTime)
        (Double.lit 1 / Double.max (Double.lit (1 / 2)) s.client.config.transformSendRate) = true
    · rw [if_pos hearly]
      exact if_pos hearly
    · rw [if_neg hearly]
      refine (if_neg hearly).trans ?_
      by_cases hquiet : (decide (s.client.lastPoseSignature = some (poseSignature
          ({ ClientPoseBody.default with flags := PoseFlag.stealth } : ClientPoseBody D))) &&
            Double.lt (now - s.client.lastPoseChangeSendTime) kPoseHeartbeatSeconds) = true
      · rw [if_pos hquiet]
        exact if_pos hquiet
      · rw [if_neg hquiet]
        exact if_neg hquiet

variable [DoubleText D]

theorem flush_withPose (now : D) {s : Session D} (hstealth : s.client.config.stealthMode = true) :
    (s.withPose pose).flush now = (s.flush now).withPose pose := by
  have hvariables (s : Session D) : (s.withPose pose).tickVariables now =
      (s.tickVariables now).withPose pose := rfl
  have hcalls (s : Session D) : (s.withPose pose).flushRpc now =
      (s.flushRpc now).withPose pose := rfl
  have hobjects (s : Session D) : (s.withPose pose).tickObjects now =
      (s.tickObjects now).withPose pose := rfl
  have htimeout (s : Session D) : (s.withPose pose).checkInitialSyncTimeout now =
      (s.checkInitialSyncTimeout now).withPose pose := rfl
  have hstealth' : ((s.tickVariables now).flushRpc now).client.config.stealthMode = true := hstealth
  rw [flush, flush, hvariables, hcalls, sendLocalPoseIfDue_withPose pose now hstealth', hobjects,
    htimeout]

omit [DoubleText D] in
/-- The mode of a client is a matter of its configuration. -/
theorem stealthMode_drainInbox (decode : Bytes → Option (List Bytes)) (now : D) (s : Session D) :
    (((({ s with events := [] } : Session D).drainInternalEvents).greet now).drainInbox
      decode).client.config.stealthMode = s.client.config.stealthMode := by
  have hpart := (posePart_drainInbox decode
    ((({ s with events := [] } : Session D).drainInternalEvents).greet now)).trans
      ((posePart_greet now _).trans (posePart_drainInternalEvents { s with events := [] }))
  exact congrArg PosePart.stealthMode hpart

/-- **A poll.** What it returns is the same as well. -/
theorem poll_withPose (decode : Bytes → Option (List Bytes)) (now : D) {s : Session D}
    (hstealth : s.client.config.stealthMode = true ∨ s.client.state = .disconnected) :
    (s.withPose pose).poll decode now =
      ((s.poll decode now).1, (s.poll decode now).2.withPose pose) := by
  by_cases hstate : s.client.state = .disconnected
  · have hstate' : (s.withPose pose).client.state = .disconnected := hstate
    rw [poll, poll, if_pos hstate, if_pos hstate']
  · have hstate' : (s.withPose pose).client.state ≠ .disconnected := hstate
    replace hstealth := hstealth.resolve_right hstate
    rw [← stealthMode_drainInbox decode now s] at hstealth
    have hbegun : ({ s.withPose pose with events := [] } : Session D) =
      ({ s with events := [] } : Session D).withPose pose := rfl
    rw [poll, poll, if_neg hstate, if_neg hstate']
    dsimp only
    rw [hbegun, drainInternalEvents_withPose, greet_withPose, drainInbox_withPose,
      flush_withPose pose now hstealth, updateReady_withPose]
    have hanswer (polled : Session D) : ((polled.withPose pose).events, polled.withPose pose) =
      (polled.events, polled.withPose pose) := rfl
    exact hanswer _

end Poses

/-! ### The other calls -/

section Calls

variable {D : Type} [DoubleTrig D] [DoubleText D] (pose : Option (ClientPoseBody D))

omit [DoubleText D] in
theorem connect_withPose (config : ClientConfig D) (s : Session D) :
    (s.withPose pose).connect config = s.connect config ∨
      (s.withPose pose).connect config = (false, s.withPose pose) ∧
        s.connect config = (false, s) := by
  by_cases hstate : s.client.state ≠ .disconnected ∧ s.client.state ≠ .error
  · have hstate' : (s.withPose pose).client.state ≠ .disconnected ∧
        (s.withPose pose).client.state ≠ .error := hstate
    rw [connect, connect, if_pos hstate, if_pos hstate']
    exact Or.inr ⟨rfl, rfl⟩
  · have hstate' : ¬((s.withPose pose).client.state ≠ .disconnected ∧
        (s.withPose pose).client.state ≠ .error) := hstate
    -- a new session begins without a pose
    have hbegin : (s.withPose pose).beginSession config = s.beginSession config := rfl
    rw [connect, connect, if_neg hstate, if_neg hstate', hbegin]
    exact Or.inl rfl

/-- **Every call but the poll and those that set the pose.** -/
theorem perform_withPose (decode : Bytes → Option (List Bytes)) (s : Session D) {call : HostCall D}
    (hpoll : ∀ now, call ≠ .poll now) (hset : ∀ body, call ≠ .setLocalPose body)
    (hclear : call ≠ .clearLocalPose) :
    (s.withPose pose).perform decode call = (s.perform decode call).withPose pose := by
  cases call with
  | poll now => exact absurd rfl (hpoll now)
  | setLocalPose body => exact absurd rfl (hset body)
  | clearLocalPose => exact absurd rfl hclear
  | _ => rfl

/-- **One step of a life** in another pose. -/
theorem live_withPose (decode : Bytes → Option (List Bytes)) {s : Session D} (e : LifeStep D)
    (hset : e.setsPose = false)
    (hstealth : s.client.config.stealthMode = true ∨ s.client.state = .disconnected) :
    (∃ pose', (s.withPose pose).live decode e = (s.live decode e).withPose pose') ∧
      (s.withPose pose).sighting decode e = s.sighting decode e := by
  cases e with
  | connect config schedule =>
    have hconnect := connect_withPose pose config (s.withSchedule schedule)
    rcases hconnect with hsame | ⟨hrefused, hrefused'⟩
    · refine ⟨⟨((s.withSchedule schedule).connect config).2.client.localPose, ?_⟩, ?_⟩
      · exact congrArg Prod.snd hsame
      · exact congrArg (fun started ↦ some (ConnectionState.Sighting.connect started))
          (congrArg Prod.fst hsame)
    · refine ⟨⟨pose, ?_⟩, ?_⟩
      · exact (congrArg Prod.snd hrefused).trans
          (congrArg (fun answer : Bool × Session D ↦ answer.2.withPose pose) hrefused'.symm)
      · have hanswer : ((s.withSchedule schedule).withPose pose |>.connect config).1 =
            ((s.withSchedule schedule).connect config).1 := by rw [hrefused, hrefused']
        exact congrArg (fun started ↦ some (ConnectionState.Sighting.connect started)) hanswer
  | disconnect schedule => exact ⟨⟨none, rfl⟩, rfl⟩
  | session e =>
    cases e with
    | network n => exact ⟨⟨pose, rfl⟩, rfl⟩
    | call call schedule =>
      by_cases hpoll : ∃ now, call = .poll now
      · obtain ⟨now, rfl⟩ := hpoll
        have hpolled := poll_withPose pose decode now (s := s.withSchedule schedule) hstealth
        refine ⟨⟨pose, congrArg Prod.snd hpolled⟩, ?_⟩
        have hevents : ((s.withSchedule schedule).withPose pose |>.poll decode now).1 =
            ((s.withSchedule schedule).poll decode now).1 := by rw [hpolled]
        exact congrArg (fun events ↦ some (ConnectionState.Sighting.poll events)) hevents
      · have hother : ∀ now, call ≠ .poll now := fun now hnow ↦ hpoll ⟨now, hnow⟩
        have hnone (s : Session D) : s.sighting decode (.session (.call call schedule)) = none := by
          cases call with
          | poll now => exact absurd rfl (hother now)
          | _ => rfl
        refine ⟨?_, (hnone _).trans (hnone s).symm⟩
        by_cases hclear : call = .clearLocalPose
        · subst hclear
          exact ⟨none, rfl⟩
        · refine ⟨pose, perform_withPose pose decode (s.withSchedule schedule) hother ?_ hclear⟩
          rintro body rfl
          simp [LifeStep.setsPose] at hset

/-- The steps to come from the other threads are given anew to every call. -/
theorem live_withSchedule (decode : Bytes → Option (List Bytes)) (s : Session D) (e : LifeStep D)
    (schedule : List (List (NetworkStep D))) :
    (∃ schedule', (s.withSchedule schedule).live decode e =
        (s.live decode e).withSchedule schedule') ∧
      (s.withSchedule schedule).sighting decode e = s.sighting decode e := by
  cases e with
  | connect config schedule' => exact ⟨⟨_, rfl⟩, rfl⟩
  | disconnect schedule' => exact ⟨⟨_, rfl⟩, rfl⟩
  | session e =>
    cases e with
    | network n =>
      refine ⟨⟨schedule, ?_⟩, rfl⟩
      have hstep : ({ s.shared with schedule := schedule } : Shared D).step n =
          { s.shared.step n with schedule := schedule } := by
        cases n with
        | drainStep result reason =>
          rw [Shared.step, Shared.step]
          rcases s.shared.transport.drainStep result with ⟨outcome, t⟩
          cases outcome <;> rfl
        | _ => rfl
      exact congrArg (fun w : Shared D ↦ ({ s with shared := w } : Session D)) hstep
    | call call schedule' =>
      refine ⟨⟨_, rfl⟩, ?_⟩
      cases call <;> rfl

end Calls

/-! ### Whole lives -/

section Lives

variable {D : Type} [DoubleTrig D] [DoubleText D]

/-- A client that has no avatar to show: a stealth one, or none at all. -/
def Hidden (s : Session D) : Prop :=
  s.client.config.stealthMode = true ∨ s.client.state = .disconnected

theorem hidden_live (decode : Bytes → Option (List Bytes)) {s : Session D} (h : Hidden s)
    {e : LifeStep D} (hconnect : ∀ config schedule, e = .connect config schedule →
      config.stealthMode = true) : Hidden (s.live decode e) := by
  cases e with
  | connect config schedule =>
    by_cases hstate : (s.withSchedule schedule).client.state = .disconnected ∨
        (s.withSchedule schedule).client.state = .error
    · have hhello := (moves_connect (Q := noMessage) config hstate).hello
      refine Or.inl ?_
      have hmode : (((s.withSchedule schedule).connect config).2).client.config.stealthMode =
          config.stealthMode := (ControlMessage.clientHello.inj hhello).2
      exact hmode.trans (hconnect config schedule rfl)
    · have hrefused : (s.withSchedule schedule).connect config =
          (false, s.withSchedule schedule) := by
        rw [connect, if_pos (not_or.mp hstate)]
      have hsame : s.live decode (.connect config schedule) = s.withSchedule schedule :=
        congrArg Prod.snd hrefused
      rw [hsame]
      exact h
  | disconnect schedule => exact Or.inr rfl
  | session e =>
    rcases h with hmode | hstate
    · have hhello := (rule_hello s.client.helloMessage).step decode e rfl
      refine Or.inl ?_
      have hkept : (s.step decode e).client.config.stealthMode = s.client.config.stealthMode :=
        (ControlMessage.clientHello.inj hhello).2
      exact hkept.trans hmode
    · refine Or.inr ?_
      cases e with
      | network n => exact hstate
      | call call schedule =>
        by_cases hpoll : ∃ now, call = .poll now
        · obtain ⟨now, rfl⟩ := hpoll
          have hpolled := poll_of_disconnected decode now (s := s.withSchedule schedule) hstate
          have hsame : s.live decode (.session (.call (.poll now) schedule)) =
              s.withSchedule schedule := congrArg Prod.snd hpolled
          rw [hsame]
          exact hstate
        · have hstill := still_perform decode (s.withSchedule schedule)
            fun now hnow ↦ hpoll ⟨now, hnow⟩
          exact (congrArg Standing.state hstill.standing).trans hstate

/-- **Nobody can tell the pose of a stealth client.** In every life whose sessions are all stealth,
whatever the other threads do in between, the calls that set the pose can be left out, and thus
moved, added or given other poses: the host sees the same, and the client ends in the same state,
with the same in the transport, but for the pose that it keeps to itself and for steps of the other
threads that were to come during a call that waits for none. -/
theorem stealth_hides_pose (decode : Bytes → Option (List Bytes)) (clock : D)
    (steps : List (LifeStep D))
    (hstealth : ∀ config schedule, .connect config schedule ∈ steps → config.stealthMode = true) :
    let stripped := steps.filter fun e ↦ !e.setsPose
    (Session.new clock).sightings decode stripped = (Session.new clock).sightings decode steps ∧
      ∃ pose schedule, stripped.foldl (live decode) (Session.new clock) =
        ((steps.foldl (live decode) (Session.new clock)).withPose pose).withSchedule schedule := by
  have hrun (s : Session D) (hs : Hidden s) (pose : Option (ClientPoseBody D))
      (schedule : List (List (NetworkStep D))) :
      ((s.withPose pose).withSchedule schedule).sightings decode
          (steps.filter fun e ↦ !e.setsPose) = s.sightings decode steps ∧
        ∃ pose' schedule', (steps.filter fun e ↦ !e.setsPose).foldl (live decode)
          ((s.withPose pose).withSchedule schedule) =
            ((steps.foldl (live decode) s).withPose pose').withSchedule schedule' := by
    induction steps generalizing s pose schedule with
    | nil => exact ⟨rfl, pose, schedule, rfl⟩
    | cons e steps ih =>
      have hnext := hidden_live decode hs fun config schedule he ↦
        hstealth config schedule (he ▸ List.mem_cons_self)
      replace ih := ih (fun config schedule he ↦
        hstealth config schedule (List.mem_cons_of_mem _ he)) (s.live decode e) hnext
      rw [List.foldl_cons, sightings]
      cases hset : e.setsPose with
      | true =>
        rw [List.filter_cons_of_neg (by simp [hset])]
        -- the call touches nothing but the pose, and the host sees nothing of it
        obtain ⟨body, schedule', rfl⟩ : ∃ body schedule',
            e = .session (.call (.setLocalPose body) schedule') := by
          revert hset
          rcases e with _ | _ | ⟨_ | ⟨call, schedule'⟩⟩
          · simp [LifeStep.setsPose]
          · simp [LifeStep.setsPose]
          · simp [LifeStep.setsPose]
          · cases call <;> simp [LifeStep.setsPose]
        exact ih pose schedule
      | false =>
        rw [List.filter_cons_of_pos (by simp [hset]), List.foldl_cons, sightings]
        obtain ⟨⟨schedule', hlive⟩, hseen⟩ :=
          live_withSchedule decode (s.withPose pose) e schedule
        obtain ⟨⟨pose', hlive'⟩, hseen'⟩ := live_withPose pose decode e hset hs
        rw [hlive, hlive', hseen, hseen']
        obtain ⟨hsightings, hend⟩ := ih pose' schedule'
        exact ⟨congrArg _ hsightings, hend⟩
  exact hrun (Session.new clock) (Or.inr rfl) none []

end Lives

/-- A stealth client in a session whose host sets a pose and polls. -/
def hiddenVisit : List (LifeStep ℚ) :=
  [.connect
      { serverAddress := [49], roomId := [], deviceId := [100], stealthMode := true,
        transformSendRate := 10 } [],
    .session (.network (.notify .connected)),
    .session (.call (.setLocalPose ClientPoseBody.default) []),
    .session (.call (.poll 1) [])]

theorem stealth_hides_pose_hiddenVisit :
    let stripped := hiddenVisit.filter fun e ↦ !e.setsPose
    (Session.new 0).sightings (fun _ ↦ none) stripped =
        (Session.new 0).sightings (fun _ ↦ none) hiddenVisit ∧
      ∃ pose schedule, stripped.foldl (live fun _ ↦ none) (Session.new 0) =
        ((hiddenVisit.foldl (live fun _ ↦ none) (Session.new 0)).withPose pose).withSchedule
          schedule :=
  stealth_hides_pose (fun _ ↦ none) 0 hiddenVisit (by simp [hiddenVisit])

end Session

end StylyNetSync
