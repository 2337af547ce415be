import StylyNetSync.Core.PollParts
import StylyNetSync.Core.SessionMoves

/-!
# Where a client stands

What a client knows of its connection: the state, whether readiness was reported, whether the hello
is on its way, whether the first variable sync is in, and since when the client waits for it. Few
parts of a poll touch this **standing**: the notifications, the greeting, a variable sync, the
timeout, and the last look at readiness. Everything else that happens to a session is **still**: the
standing stays what it is, and no event tells of readiness.
-/

namespace StylyNetSync

/-- Events that tell of readiness. -/
def Event.tellsReady : Event → Bool
  | .connectionStateChanged .ready | .ready _ => true
  | _ => false

/-- What a client knows of its connection. -/
structure Standing (D : Type) where
  state : ConnectionState
  readyFired : Bool
  helloEnqueued : Bool
  hasReceivedInitialSync : Bool
  connectionEstablished : Bool
  connectionEstablishedAt : D

namespace Standing

variable {D : Type}

/-- The first variable sync may have come in. -/
def synced (sync : Bool) (standing : Standing D) : Standing D :=
  { standing with hasReceivedInitialSync := sync || standing.hasReceivedInitialSync }

@[simp] theorem synced_synced (sync sync' : Bool) (standing : Standing D) :
    (standing.synced sync).synced sync' = standing.synced (sync || sync') := by
  cases sync <;> cases sync' <;> rfl

/-- One notification of another thread. -/
def notified (standing : Standing D) : Notification → Standing D
  | .connected => { standing with state := .connected }
  | .error _ => { standing with state := .error }
  | .log _ => standing
  | .discovered _ => { standing with helloEnqueued := false }

/-- The client tries to say hello. -/
def greeted (now : D) (accepted : Bool) (standing : Standing D) : Standing D :=
  { standing with
    state := if accepted then .synchronizing else .connected
    helloEnqueued := accepted
    connectionEstablished := true
    connectionEstablishedAt := now }

/-- The hello is due. -/
def greets (standing : Standing D) : Prop :=
  standing.state = .connected ∧ standing.helloEnqueued = false

instance (standing : Standing D) : Decidable standing.greets :=
  inferInstanceAs (Decidable (_ ∧ _))

/-- The client says hello if it is due. -/
def greet (now : D) (accepted : Bool) (standing : Standing D) : Standing D :=
  if standing.greets then standing.greeted now accepted else standing

/-- Nothing that happens in a session ends it. -/
theorem notified_ne_disconnected (standing : Standing D) (h : standing.state ≠ .disconnected)
    (notifications : List Notification) :
    (notifications.foldl notified standing).state ≠ .disconnected := by
  refine List.foldlRecOn (motive := fun standing : Standing D ↦ standing.state ≠ .disconnected)
    notifications notified h fun standing h notification _ ↦ ?_
  cases notification <;> simp_all [notified]

theorem greet_ne_disconnected {standing : Standing D} (h : standing.state ≠ .disconnected)
    (now : D) (accepted : Bool) : (standing.greet now accepted).state ≠ .disconnected := by
  rw [greet]
  split
  · cases accepted <;> simp [greeted]
  · exact h

/-- The time to wait for the first variable sync is over. -/
def expired [Double D] (now : D) (standing : Standing D) : Bool :=
  standing.connectionEstablished &&
    !Double.lt (now - standing.connectionEstablishedAt) kInitialSyncTimeout

end Standing

def NetSyncClient.standing {D : Type} (c : NetSyncClient D) : Standing D where
  state := c.state
  readyFired := c.readyFired
  helloEnqueued := c.helloEnqueued
  hasReceivedInitialSync := c.networkVariables.hasReceivedInitialSync
  connectionEstablished := c.networkVariables.connectionEstablished
  connectionEstablishedAt := c.networkVariables.connectionEstablishedAt

/-- A control payload that is a variable sync. -/
def isVariableSync (payload : Bytes) : Bool :=
  (peekMessageType payload == MessageType.globalVarSync.code &&
    (deserializeGlobalVarSync.run payload).1.isSome) ||
  (peekMessageType payload == MessageType.clientVarSync.code &&
    (deserializeClientVarSync.run payload).1.isSome)

namespace Session

variable {D : Type}

/-- A variable sync apart, the standing stays, and no event tells of readiness. -/
structure Still (sync : Bool) (s s' : Session D) : Prop where
  standing : s'.client.standing = s.client.standing.synced sync
  told : s'.events.filter Event.tellsReady = s.events.filter Event.tellsReady

namespace Still

variable {s s₁ s₂ : Session D}

theorem refl (s : Session D) : Still false s s := ⟨rfl, rfl⟩

theorem trans {sync sync' : Bool} (h : Still sync s s₁) (h' : Still sync' s₁ s₂) :
    Still (sync || sync') s s₂ where
  standing := by rw [h'.standing, h.standing, Standing.synced_synced]
  told := h'.told.trans h.told

theorem foldl {α : Type} {f : Session D → α → Session D} {sync : α → Bool}
    (hf : ∀ s a, Still (sync a) s (f s a)) (items : List α) (s : Session D) :
    Still (items.any sync) s (items.foldl f s) := by
  induction items generalizing s with
  | nil => exact refl s
  | cons a items ih => exact (hf s a).trans (ih (f s a))

end Still

/-! ### Messages -/

theorem still_shared (w : Shared D) (s : Session D) : Still false s { s with shared := w } :=
  ⟨rfl, rfl⟩

theorem still_emit {event : Event} (h : event.tellsReady = false) (s : Session D) :
    Still false s (s.emit event) :=
  ⟨rfl, by simp [emit, h]⟩

/-- Events that are all of another kind. -/
theorem filter_append_map {α : Type} {f : α → Event} (h : ∀ a, (f a).tellsReady = false)
    (events : List Event) (items : List α) :
    (events ++ items.map f).filter Event.tellsReady = events.filter Event.tellsReady := by
  have hnone : (items.map f).filter Event.tellsReady = [] := by
    rw [List.filter_eq_nil_iff]
    intro event hevent
    obtain ⟨a, -, rfl⟩ := List.mem_map.mp hevent
    simp [h a]
  rw [List.filter_append, hnone, List.append_nil]

theorem still_processDeviceIdMapping (message : DeviceIdMappingMessage) (s : Session D) :
    Still false s (s.processDeviceIdMapping message) := by
  rw [processDeviceIdMapping]
  dsimp only
  split <;> split <;> exact ⟨rfl, by simp [emit, Event.tellsReady]⟩

theorem still_processGlobalVarSync (message : GlobalVarSyncMessage) (s : Session D) :
    Still true s (s.processGlobalVarSync message) := by
  refine ⟨?_, filter_append_map (fun _ ↦ rfl) _ _⟩
  -- an entry changes a cached value and the send side
  show ({ s.client with
    networkVariables := (s.client.networkVariables.handleGlobalSync message).1 } :
      NetSyncClient D).standing = _
  refine List.foldlRecOn
    (motive := fun acc : NetworkVariableManager D × List VariableChange ↦
      ({ s.client with networkVariables := acc.1 } : NetSyncClient D).standing =
        s.client.standing.synced true)
    message.vars NetworkVariableManager.handleGlobalEntry rfl ?_
  rintro ⟨m, changes⟩ h entry -
  rw [NetworkVariableManager.handleGlobalEntry]
  dsimp only
  split
  · exact h
  · split <;> exact h

theorem still_processClientVarSync (message : ClientVarSyncMessage) (s : Session D) :
    Still true s (s.processClientVarSync message) := by
  refine ⟨?_, filter_append_map (fun _ ↦ rfl) _ _⟩
  show ({ s.client with
    networkVariables := (s.client.networkVariables.handleClientSync message).1 } :
      NetSyncClient D).standing = _
  exact List.foldlRecOn
    (motive := fun acc : NetworkVariableManager D × List VariableChange ↦
      ({ s.client with networkVariables := acc.1 } : NetSyncClient D).standing =
        s.client.standing.synced true)
    message.clients NetworkVariableManager.handleClientBlock rfl fun _ h _ _ ↦ h

variable [Double D]

theorem still_processRpc (decode : Bytes → Option (List Bytes)) (message : RpcMessage)
    (s : Session D) : Still false s (s.processRpc decode message) := by
  rw [processRpc]
  split
  · exact still_emit rfl s
  · exact (still_shared _ s).trans (still_emit rfl _)

theorem still_processOwnershipChanged (message : ObjectOwnershipChangedMessage) (s : Session D) :
    Still false s (s.processOwnershipChanged message) :=
  ⟨rfl, by simp [processOwnershipChanged, emit, Event.tellsReady]⟩

theorem still_processRoomObjects (payload : Bytes) (s : Session D) :
    Still false s (s.processRoomObjects payload) := by
  rw [processRoomObjects]
  split
  · exact still_shared _ s
  · exact ⟨rfl, filter_append_map (fun _ ↦ rfl) _ _⟩

/-- **A control payload is still**, unless it is a variable sync. -/
theorem still_processControlPayload (decode : Bytes → Option (List Bytes)) (s : Session D)
    (payload : Bytes) :
    Still (isVariableSync payload) s (s.processControlPayload decode payload) := by
  have hlog (text : String) : Still false s (s.pushLog text) := still_shared _ s
  have hother (hglobal : peekMessageType payload ≠ MessageType.globalVarSync.code)
      (hclient : peekMessageType payload ≠ MessageType.clientVarSync.code) :
      isVariableSync payload = false := by
    simp [isVariableSync, hglobal, hclient]
  rw [processControlPayload]
  split
  · next htype =>
    rw [hother (by rw [htype]; decide) (by rw [htype]; decide)]
    split
    · exact hlog _
    · exact still_processDeviceIdMapping _ s
  split
  · next htype =>
    rw [hother (by rw [htype]; decide) (by rw [htype]; decide)]
    split
    · exact hlog _
    · exact still_processRpc decode _ s
  split
  · next htype =>
    split
    · next hmalformed =>
      have hsync : isVariableSync payload = false := by
        rw [isVariableSync, htype, hmalformed]
        rfl
      rw [hsync]
      exact hlog _
    · next message hmessage =>
      have hsync : isVariableSync payload = true := by
        rw [isVariableSync, htype, hmessage]
        rfl
      rw [hsync]
      exact still_processGlobalVarSync message s
  · next hglobal =>
    split
    · next htype =>
      split
      · next hmalformed =>
        have hsync : isVariableSync payload = false := by
          rw [isVariableSync, htype, hmalformed]
          rfl
        rw [hsync]
        exact hlog _
      · next message hmessage =>
        have hsync : isVariableSync payload = true := by
          rw [isVariableSync, htype, hmessage]
          rfl
        rw [hsync]
        exact still_processClientVarSync message s
    · next hclient =>
      rw [hother hglobal hclient]
      split
      · split
        · exact hlog _
        · exact still_processOwnershipChanged _ s
      split
      · split
        · exact hlog _
        · exact still_emit rfl s
      · exact Still.refl s

/-! ### Flushing -/

theorem still_tickObjects (now : D) (s : Session D) : Still false s (s.tickObjects now) :=
  ⟨rfl, rfl⟩

/-- The wait for the first variable sync ends when its time is over. -/
theorem still_checkInitialSyncTimeout (now : D) (s : Session D) :
    Still (s.client.standing.expired now) s (s.checkInitialSyncTimeout now) := by
  let m := s.client.networkVariables
  have hexpired : s.client.standing.expired now =
      (m.connectionEstablished &&
        !Double.lt (now - m.connectionEstablishedAt) kInitialSyncTimeout) := rfl
  refine ⟨?_, rfl⟩
  rw [checkInitialSyncTimeout, NetworkVariableManager.checkInitialSyncTimeout, hexpired]
  split_ifs with hreceived hlt
  · -- the sync is in, or no wait has begun
    rcases Bool.or_eq_true_iff.mp hreceived with hreceived | hnone
    · simp [NetSyncClient.standing, Standing.synced, hreceived]
    · simp only [Bool.not_eq_true'] at hnone
      simp only [m, hnone, Bool.false_and]
      rfl
  · simp only [m, hlt, Bool.not_true, Bool.and_false]
    rfl
  · have hover : (m.connectionEstablished &&
        !Double.lt (now - m.connectionEstablishedAt) kInitialSyncTimeout) = true := by
      simp only [Bool.or_eq_true, Bool.not_eq_true', not_or, Bool.not_eq_false] at hreceived
      simp only [m, hreceived.2, hlt, Bool.not_false, Bool.and_true]
    rw [hover]
    rfl

/-! ### What does touch the standing -/

omit [Double D] in
theorem standing_setState (state : ConnectionState) (s : Session D) :
    (s.setState state).client.standing = { s.client.standing with state := state } := by
  rw [setState]
  split
  · next h =>
    rw [← h]
    rfl
  · rfl

omit [Double D] in
theorem told_setState {state : ConnectionState} (hstate : state ≠ .ready) (s : Session D) :
    (s.setState state).events.filter Event.tellsReady = s.events.filter Event.tellsReady := by
  rw [setState]
  split
  · rfl
  · cases state with
    | ready => exact absurd rfl hstate
    | _ => simp [emit, Event.tellsReady]

theorem standing_startTransport (s : Session D) :
    s.startTransport.client.standing = { s.client.standing with helloEnqueued := false } ∧
      s.startTransport.events = s.events := by
  rw [startTransport]
  dsimp only
  split <;> exact ⟨rfl, rfl⟩

/-- A new session begins with nothing, and may fail at once. -/
theorem standing_connect (config : ClientConfig D) {s : Session D}
    (hstate : s.client.state = .disconnected ∨ s.client.state = .error) :
    ∃ state, (state = .connecting ∨ state = .error) ∧
      (s.connect config).2.client.standing =
        ⟨state, false, false, false, false, Double.lit 0⟩ := by
  have hfree : ¬(s.client.state ≠ .disconnected ∧ s.client.state ≠ .error) := by tauto
  rw [connect, if_neg hfree]
  dsimp only
  split
  · refine ⟨.connecting, Or.inl rfl, ?_⟩
    rw [(standing_startTransport _).1]
    rfl
  · split
    · exact ⟨.error, Or.inr rfl, rfl⟩
    · split
      · exact ⟨.connecting, Or.inl rfl, rfl⟩
      · exact ⟨.error, Or.inr rfl, rfl⟩

/-- A notification makes of the standing what it says, and tells nothing of readiness. -/
theorem standing_handleNotification (s : Session D) (notification : Notification) :
    (s.handleNotification notification).client.standing =
        s.client.standing.notified notification ∧
      (s.handleNotification notification).events.filter Event.tellsReady =
        s.events.filter Event.tellsReady := by
  cases notification with
  | connected => exact ⟨standing_setState _ s, told_setState (by simp) s⟩
  | error text =>
    refine ⟨standing_setState _ s, ?_⟩
    rw [handleNotification, (still_emit rfl _).told, told_setState (by simp) s]
  | log text => exact ⟨rfl, (still_emit rfl s).told⟩
  | discovered server =>
    have hstart := standing_startTransport
      (({ s with
          client :=
            { s.client with
              resolvedAddress := server.address
              discoveredRestApiPort := server.restApiPort } } : Session D).emit
        (.serverDiscovered server))
    refine ⟨hstart.1, ?_⟩
    rw [handleNotification]
    dsimp only
    rw [hstart.2, (still_emit rfl _).told]

/-- The notifications are handled one after another. -/
theorem standing_drainInternalEvents (s : Session D) :
    s.drainInternalEvents.client.standing =
        s.shared.takeNotifications.1.foldl Standing.notified s.client.standing ∧
      s.drainInternalEvents.events.filter Event.tellsReady = s.events.filter Event.tellsReady := by
  have hfold (notifications : List Notification) (s : Session D) :
      (notifications.foldl handleNotification s).client.standing =
          notifications.foldl Standing.notified s.client.standing ∧
        (notifications.foldl handleNotification s).events.filter Event.tellsReady =
          s.events.filter Event.tellsReady := by
    induction notifications generalizing s with
    | nil => exact ⟨rfl, rfl⟩
    | cons notification notifications ih =>
      obtain ⟨hstanding, htold⟩ := standing_handleNotification s notification
      obtain ⟨hstanding', htold'⟩ := ih (s.handleNotification notification)
      refine ⟨?_, htold'.trans htold⟩
      rw [List.foldl_cons, hstanding', hstanding, List.foldl_cons]
  exact hfold _ _

/-- The client says hello if it is due, and goes on if the hello is accepted. -/
theorem standing_greet (now : D) (s : Session D) :
    (∃ accepted, (s.greet now).client.standing = s.client.standing.greet now accepted) ∧
      (s.greet now).events.filter Event.tellsReady = s.events.filter Event.tellsReady := by
  by_cases hgreets : s.client.state = .connected ∧ s.client.helloEnqueued = false
  · have hdue : s.client.standing.greets := hgreets
    rw [greet, if_pos hgreets]
    dsimp only
    rw [enqueueHello]
    generalize Shared.tryEnqueueControl (D := D) _ _ = result
    obtain ⟨accepted, w⟩ := result
    refine ⟨⟨accepted, ?_⟩, ?_⟩
    · rw [Standing.greet, if_pos hdue]
      cases accepted with
      | true =>
        dsimp only
        rw [if_pos rfl, standing_setState]
        rfl
      | false =>
        dsimp only
        rw [if_neg (by simp [hgreets.2])]
        simp [NetSyncClient.standing, Standing.greeted, hgreets,
          NetworkVariableManager.onConnectionEstablished]
    · cases accepted with
      | true =>
        dsimp only
        rw [if_pos rfl, told_setState (by simp)]
      | false =>
        dsimp only
        rw [if_neg (by simp [hgreets.2])]
  · have hdue : ¬s.client.standing.greets := hgreets
    rw [greet, if_neg hgreets]
    refine ⟨⟨true, ?_⟩, rfl⟩
    rw [Standing.greet, if_neg hdue]

/-! ### The last look -/

/-- What `is_ready()` answers while the other threads pause. -/
def readyNow (s : Session D) : Bool :=
  ({ s with shared := { s.shared with schedule := [] } } : Session D).isReady.1

theorem readyNow_iff (s : Session D) :
    s.readyNow = true ↔
      s.shared.transport.running = true ∧ s.shared.transport.connectionError = false ∧
        0 < s.client.clientNo ∧ s.client.networkVariables.hasReceivedInitialSync = true := by
  have hyield : ({ s.shared with schedule := [] } : Shared D).yield =
      { s.shared with schedule := [] } := rfl
  rw [readyNow, isReady, Shared.isConnected]
  dsimp only
  rw [hyield]
  dsimp only
  cases hrunning : s.shared.transport.running with
  | false => simp
  | true =>
    simp only [hyield, Bool.not_true, Bool.false_eq_true, if_false, Bool.and_eq_true,
      Bool.not_eq_true', NetSyncClient.hasHandshake, decide_eq_true_eq, true_and, and_assoc]
    rfl

/-- The answer that a client gets is still true when it has it. -/
theorem readyNow_isReady {s s₁ : Session D} {ready : Bool} (h : s.isReady = (ready, s₁)) :
    s₁.readyNow = ready ∧ s₁ = { s with shared := s₁.shared } := by
  rw [isReady] at h
  rcases hlook : s.shared.isConnected with ⟨connected, w⟩
  rw [hlook] at h
  obtain ⟨rfl, rfl⟩ := Prod.mk.inj h
  refine ⟨?_, rfl⟩
  rw [Bool.eq_iff_iff, readyNow_iff]
  rw [Shared.isConnected] at hlook
  dsimp only at hlook
  split at hlook
  · next hstopped =>
    obtain ⟨rfl, rfl⟩ := Prod.mk.inj hlook
    simp only [Bool.not_eq_true'] at hstopped
    simp [hstopped]
  · next hrunning =>
    obtain ⟨rfl, rfl⟩ := Prod.mk.inj hlook
    simp only [Bool.not_eq_true', Bool.not_eq_false] at hrunning
    have hstill : s.shared.yield.yield.transport.running = true :=
      Shared.Stable.stable_running.yield hrunning
    simp [hstill, NetSyncClient.hasHandshake, NetSyncClient.clientNo, and_assoc]

theorem readyNow_setState (state : ConnectionState) (s : Session D) :
    (s.setState state).readyNow = s.readyNow := by
  rw [setState]
  split <;> rfl

/-- **The last look.** After an error nothing happens. Otherwise the state follows the answer, and
the host hears of readiness unless it has heard already. -/
theorem updateReady_cases (s : Session D) :
    ((s.client.state = .error ∨ s.client.state = .disconnected) ∧ s.updateReady = s) ∨
    (s.client.state ≠ .error ∧ s.updateReady.readyNow = true ∧
      s.updateReady.client.standing =
        { s.client.standing with state := .ready, readyFired := true } ∧
      s.updateReady.events.filter Event.tellsReady = s.events.filter Event.tellsReady ++
        (if s.client.state = .ready then [] else [.connectionStateChanged .ready]) ++
        (if s.client.readyFired then [] else [.ready s.client.clientNo])) ∨
    (s.client.state ≠ .error ∧ s.updateReady.readyNow = false ∧
      s.updateReady.client.standing =
        (if s.client.state = .ready then
          { s.client.standing with state := .synchronizing, readyFired := false }
        else s.client.standing) ∧
      s.updateReady.events.filter Event.tellsReady = s.events.filter Event.tellsReady) := by
  rw [updateReady]
  split
  · next hstate => exact Or.inl ⟨hstate, rfl⟩
  · next hstate =>
    rcases hask : s.isReady with ⟨ready, s₁⟩
    obtain ⟨hnow, hs₁⟩ := readyNow_isReady hask
    have hclient : s₁.client = s.client := by rw [hs₁]
    have hevents : s₁.events = s.events := by rw [hs₁]
    have herror : s₁.client.state ≠ .error := fun h ↦ hstate (Or.inl (by rw [← hclient, h]))
    refine Or.inr ?_
    rw [← hclient, ← hevents]
    cases ready with
    | true =>
      have hstate : (s₁.setState .ready).events.filter Event.tellsReady =
          s₁.events.filter Event.tellsReady ++
            (if s₁.client.state = .ready then [] else [.connectionStateChanged .ready]) := by
        rw [setState]
        split
        · simp
        · simp [emit, Event.tellsReady]
      have hkept : (s₁.setState .ready).client.readyFired = s₁.client.readyFired ∧
          (s₁.setState .ready).client.clientNo = s₁.client.clientNo := by
        rw [setState]
        split <;> exact ⟨rfl, rfl⟩
      refine Or.inl ⟨herror, ?_⟩
      dsimp only
      rw [hkept.1]
      split
      · next hfired =>
        refine ⟨(readyNow_setState .ready s₁).trans hnow, ?_, ?_⟩
        · rw [standing_setState, ← hfired]
          rfl
        · rw [hstate, List.append_nil]
      · refine ⟨(readyNow_setState .ready s₁).trans hnow, ?_, ?_⟩
        · exact congrArg (fun standing : Standing D ↦ { standing with readyFired := true })
            (standing_setState .ready s₁)
        · rw [← hkept.2, ← hstate]
          exact List.filter_append _ _
    | false =>
      refine Or.inr ⟨herror, ?_⟩
      dsimp only
      split
      · refine ⟨(readyNow_setState .synchronizing s₁).trans hnow, ?_, told_setState (by simp) s₁⟩
        exact congrArg (fun standing : Standing D ↦ { standing with readyFired := false })
          (standing_setState .synchronizing s₁)
      · exact ⟨hnow, rfl, rfl⟩

end Session

namespace Session

variable {D : Type} [DoubleTrig D]

/-! ### The whole poll -/

theorem still_processRoomPose (payload : Bytes) (s : Session D) :
    Still false s (s.processRoomPose payload) := by
  rw [processRoomPose]
  split
  · exact still_shared _ s
  · split
    · exact Still.refl s
    · refine ⟨rfl, ?_⟩
      rw [applyRoomPose]
      dsimp only
      rw [filter_append_map fun _ ↦ rfl, filter_append_map fun _ ↦ rfl]

theorem still_sendLocalPoseIfDue (now : D) (s : Session D) :
    Still false s (s.sendLocalPoseIfDue now) := by
  rw [sendLocalPoseIfDue]
  split
  · exact still_shared _ s
  · dsimp only
    split
    · exact still_shared _ s
    · split
      · exact still_shared _ s
      · split <;> exact ⟨rfl, rfl⟩

theorem still_processMail (decode : Bytes → Option (List Bytes)) (mail : Shared.Mail)
    (s : Session D) : Still (mail.control.any isVariableSync) s (s.processMail decode mail) := by
  have hcontrol (s : Session D) := Still.foldl (still_processControlPayload decode) mail.control s
  rw [processMail]
  rcases mail.roomPose with - | pose
  · rcases mail.roomObjects with - | objects
    · exact hcontrol s
    · have h := (hcontrol s).trans (still_processRoomObjects objects _)
      rwa [Bool.or_false] at h
  · have hpose := (still_processRoomPose pose s).trans (hcontrol _)
    rcases mail.roomObjects with - | objects
    · exact hpose
    · have h := hpose.trans (still_processRoomObjects objects _)
      rwa [Bool.or_false] at h

variable [DoubleText D]

theorem still_flush (now : D) (s : Session D) :
    Still (s.client.standing.expired now) s (s.flush now) := by
  have hcalls : Still false s ((s.tickVariables now).flushRpc now) := ⟨rfl, rfl⟩
  have hrest := (hcalls.trans (still_sendLocalPoseIfDue now _)).trans (still_tickObjects now _)
  have htimeout := hrest.trans (still_checkInitialSyncTimeout now _)
  rw [hrest.standing] at htimeout
  exact htimeout

/-- **The poll, as far as readiness goes**: the notifications, the greeting, what is still, and the
last look. -/
theorem poll_standing (decode : Bytes → Option (List Bytes)) (now : D) {s : Session D}
    (hstate : s.client.state ≠ .disconnected) :
    ∃ accepted, ∃ s₁ : Session D,
      let greeted := (s.shared.takeNotifications.1.foldl Standing.notified
        s.client.standing).greet now accepted
      s₁.client.standing = greeted.synced
        ((s.mailOfPoll now).control.any isVariableSync || greeted.expired now) ∧
      s₁.events.filter Event.tellsReady = [] ∧
      s.poll decode now = (s₁.updateReady.events, s₁.updateReady) := by
  let begun : Session D := { s with events := [] }
  obtain ⟨hdrained, htold⟩ := standing_drainInternalEvents begun
  obtain ⟨⟨accepted, hgreeted⟩, htold'⟩ := standing_greet now begun.drainInternalEvents
  let s₀ := begun.drainInternalEvents.greet now
  have htaken := still_shared s₀.shared.takeMail.2 s₀
  have hmail := htaken.trans (still_processMail decode (s.mailOfPoll now) _)
  have hflush := hmail.trans (still_flush now _)
  rw [hdrained] at hgreeted
  refine ⟨accepted, (s₀.drainInbox decode).flush now, ?_, ?_, ?_⟩
  · have hexpired : (processMail decode (s.mailOfPoll now)
        { s₀ with shared := s₀.shared.takeMail.2 }).client.standing.expired now =
          s₀.client.standing.expired now := by
      rw [hmail.standing]
      rfl
    rw [hexpired] at hflush
    rw [← hgreeted]
    exact hflush.standing
  · exact hflush.told.trans (htold'.trans htold)
  · rw [poll, if_neg hstate]

/-! ### Other calls of the host -/

theorem still_rpcToMany (targets : List ℤ) (functionName : Bytes) (args : List Bytes)
    (s : Session D) : Still false s (s.rpcToMany targets functionName args) :=
  ⟨rfl, rfl⟩

omit [DoubleText D] in
theorem still_setGlobalVariable (name value : Bytes) (s : Session D) :
    Still false s (s.setGlobalVariable name value).2 := by
  rcases hcall : s.client.networkVariables.setGlobal Shared.callbacks s.shared.monotonicSeconds.1
    name value s.shared.monotonicSeconds.2 with ⟨ok, m, w⟩
  rw [setGlobalVariable]
  dsimp only
  rw [hcall]
  obtain ⟨-, rfl, -⟩ | ⟨-, -, -, side, -, rfl⟩ := NetworkVariableManager.setGlobal_cases hcall
  · exact ⟨rfl, rfl⟩
  · exact ⟨rfl, rfl⟩

omit [DoubleText D] in
theorem still_setClientVariableFor (target : ℤ) (name value : Bytes) (s : Session D) :
    Still false s (s.setClientVariableFor target name value).2 := by
  rcases hcall : s.client.networkVariables.setClient Shared.callbacks s.shared.monotonicSeconds.1
    target name value s.shared.monotonicSeconds.2 with ⟨ok, m, w⟩
  rw [setClientVariableFor]
  dsimp only
  rw [hcall]
  have htouch : ({ s.client with networkVariables :=
      s.client.networkVariables.touchClient target } : NetSyncClient D).standing =
        s.client.standing := by
    rw [NetworkVariableManager.touchClient]
    split <;> rfl
  obtain ⟨-, rfl | rfl, -⟩ | ⟨-, -, -, side, -, rfl⟩ := NetworkVariableManager.setClient_cases hcall
  · exact ⟨rfl, rfl⟩
  · exact ⟨htouch, rfl⟩
  · exact ⟨htouch, rfl⟩

omit [DoubleText D] in
theorem still_clearMyClientVariables (s : Session D) :
    Still false s s.clearMyClientVariables.2 := by
  rcases hclear : s.client.networkVariables.clearMyClientVariables Shared.callbacks s.shared with
    ⟨ok, changes, m, w⟩
  rw [clearMyClientVariables, hclear]
  rw [NetworkVariableManager.clearMyClientVariables] at hclear
  dsimp only at hclear
  split at hclear
  · obtain ⟨-, -, rfl, rfl⟩ := hclear
    exact ⟨rfl, rfl⟩
  · split at hclear
    · obtain ⟨-, -, rfl, rfl⟩ := hclear
      exact ⟨rfl, rfl⟩
    · split at hclear
      all_goals
        obtain ⟨-, -, rfl, rfl⟩ := hclear
        exact ⟨rfl, rfl⟩

/-- **Every call but the poll is still.** -/
theorem still_perform (decode : Bytes → Option (List Bytes)) (s : Session D) {call : HostCall D}
    (hpoll : ∀ now, call ≠ .poll now) : Still false s (s.perform decode call) := by
  cases call with
  | poll now => exact absurd rfl (hpoll now)
  | setGlobalVariable name value => exact still_setGlobalVariable name value s
  | setClientVariable name value => exact still_setClientVariableFor _ name value s
  | setClientVariableFor target name value => exact still_setClientVariableFor target name value s
  | clearMyClientVariables => exact still_clearMyClientVariables s
  | rpc functionName args => exact still_rpcToMany [] functionName args s
  | rpcTo target functionName args => exact still_rpcToMany [target] functionName args s
  | rpcToMany targets functionName args => exact still_rpcToMany targets functionName args s
  | _ => exact ⟨rfl, rfl⟩

/-! ### A session goes on -/

theorem poll_ne_disconnected (decode : Bytes → Option (List Bytes)) (now : D) {s : Session D}
    (hstate : s.client.state ≠ .disconnected) :
    (s.poll decode now).2.client.state ≠ .disconnected := by
  obtain ⟨accepted, s₁, hstanding, -, hpoll⟩ := poll_standing decode now hstate
  have hstate₁ : s₁.client.state ≠ .disconnected := by
    have hgreeted := Standing.greet_ne_disconnected
      (Standing.notified_ne_disconnected s.client.standing hstate
        s.shared.takeNotifications.1) now accepted
    intro hover
    have hsame : s₁.client.standing.state = _ := congrArg Standing.state hstanding
    exact hgreeted (hsame.symm.trans hover)
  rw [hpoll]
  rcases s₁.updateReady_cases with ⟨-, hsame⟩ | ⟨-, -, hready, -⟩ | ⟨-, -, hlost, -⟩
  · rwa [hsame]
  · have hlast : s₁.updateReady.client.state = .ready := congrArg Standing.state hready
    simp [hlast]
  · have hlast : s₁.updateReady.client.state = _ := congrArg Standing.state hlost
    rw [hlast]
    split
    · simp
    · exact hstate₁

theorem step_ne_disconnected (decode : Bytes → Option (List Bytes)) (e : SessionStep D)
    {s : Session D} (hstate : s.client.state ≠ .disconnected) :
    (s.step decode e).client.state ≠ .disconnected := by
  cases e with
  | network n => exact hstate
  | call call schedule =>
    by_cases hcall : ∃ now, call = .poll now
    · obtain ⟨now, rfl⟩ := hcall
      exact poll_ne_disconnected decode now
        (s := { s with shared := { s.shared with schedule := schedule } }) hstate
    · have hstill := still_perform decode
        ({ s with shared := { s.shared with schedule := schedule } } : Session D)
        fun now hnow ↦ hcall ⟨now, hnow⟩
      have hsame : ((s.step decode (.call call schedule)).client).standing.state = _ :=
        congrArg Standing.state hstill.standing
      exact fun hover ↦ hstate (hsame.symm.trans hover)

end Session

end StylyNetSync
