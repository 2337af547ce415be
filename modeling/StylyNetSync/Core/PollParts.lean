import StylyNetSync.Core.NetSyncClient

/-!
# The parts of a poll that the host's picture does not hang on

What the host knows of the others it knows from events: the variables from the change events, and
who is there from the avatar events. Four messages move this picture: the two variable syncs, the
device id mapping and the room pose. Everything else that a poll or another call does stands
**aside**: the cached variables, the mapping and the remote poses stay what they are, and whatever
is emitted is an event of another kind. One lemma for each part says so.
-/

namespace StylyNetSync

/-- Events that tell of variables or of the presence of others. -/
def Event.tells : Event → Bool
  | .avatarConnected .. | .avatarDisconnected .. => true
  | .globalVariableChanged .. | .clientVariableChanged .. => true
  | _ => false

/-- An empty entry reads like no entry. -/
theorem NetworkVariableManager.allClientVariables_touchClient {D : Type}
    (m : NetworkVariableManager D) (target clientNo : ℤ) :
    (m.touchClient target).allClientVariables clientNo = m.allClientVariables clientNo := by
  rw [allClientVariables, allClientVariables, touchClient]
  dsimp only
  split
  · rfl
  · next habsent =>
    rw [OrderedMap.get?_insert]
    split
    · next heq =>
      rw [← heq, Std.ExtTreeMap.getElem?_eq_none habsent]
      rfl
    · rfl

namespace Session

variable {D : Type}

/-- Nothing that the host's picture hangs on has changed. -/
structure Aside (s s' : Session D) : Prop where
  globals : s'.client.networkVariables.globals = s.client.networkVariables.globals
  clients : ∀ clientNo, s'.client.networkVariables.allClientVariables clientNo =
    s.client.networkVariables.allClientVariables clientNo
  mapping : s'.client.mapping = s.client.mapping
  remotePoses : s'.client.remotePoses = s.client.remotePoses
  roomId : s'.client.config.roomId = s.client.config.roomId
  events : ∃ more, s'.events = s.events ++ more ∧ ∀ event ∈ more, event.tells = false

namespace Aside

variable {s s₁ s₂ : Session D}

/-- No event at all. -/
theorem of_events_eq
    (globals : s₁.client.networkVariables.globals = s.client.networkVariables.globals)
    (clients : ∀ clientNo, s₁.client.networkVariables.allClientVariables clientNo =
      s.client.networkVariables.allClientVariables clientNo)
    (mapping : s₁.client.mapping = s.client.mapping)
    (remotePoses : s₁.client.remotePoses = s.client.remotePoses)
    (roomId : s₁.client.config.roomId = s.client.config.roomId) (events : s₁.events = s.events) :
    Aside s s₁ :=
  ⟨globals, clients, mapping, remotePoses, roomId, [], by rw [events, List.append_nil],
    fun _ h ↦ absurd h List.not_mem_nil⟩

/-- The whole difference lies in fields that do not matter. -/
theorem of_eq (networkVariables : s₁.client.networkVariables = s.client.networkVariables)
    (mapping : s₁.client.mapping = s.client.mapping)
    (remotePoses : s₁.client.remotePoses = s.client.remotePoses)
    (roomId : s₁.client.config.roomId = s.client.config.roomId) (events : s₁.events = s.events) :
    Aside s s₁ :=
  of_events_eq (by rw [networkVariables]) (fun _ ↦ by rw [networkVariables]) mapping remotePoses
    roomId events

theorem refl (s : Session D) : Aside s s := of_eq rfl rfl rfl rfl rfl

theorem trans (h₁ : Aside s s₁) (h₂ : Aside s₁ s₂) : Aside s s₂ where
  globals := h₂.globals.trans h₁.globals
  clients clientNo := (h₂.clients clientNo).trans (h₁.clients clientNo)
  mapping := h₂.mapping.trans h₁.mapping
  remotePoses := h₂.remotePoses.trans h₁.remotePoses
  roomId := h₂.roomId.trans h₁.roomId
  events := by
    obtain ⟨more₁, hevents₁, hmore₁⟩ := h₁.events
    obtain ⟨more₂, hevents₂, hmore₂⟩ := h₂.events
    refine ⟨more₁ ++ more₂, by rw [hevents₂, hevents₁, List.append_assoc], fun event hevent ↦ ?_⟩
    rcases List.mem_append.mp hevent with h | h
    · exact hmore₁ event h
    · exact hmore₂ event h

theorem foldl {α : Type} {f : Session D → α → Session D} (hf : ∀ s a, Aside s (f s a))
    (items : List α) (s : Session D) : Aside s (items.foldl f s) :=
  List.foldlRecOn (motive := fun s' ↦ Aside s s') items f (refl s) fun s' hs a _ ↦
    hs.trans (hf s' a)

end Aside

/-! ### Small parts -/

/-- Only the shared state changes. -/
theorem aside_shared (w : Shared D) (s : Session D) : Aside s { s with shared := w } :=
  Aside.of_eq rfl rfl rfl rfl rfl

theorem aside_emit {event : Event} (h : event.tells = false) (s : Session D) :
    Aside s (s.emit event) :=
  ⟨rfl, fun _ ↦ rfl, rfl, rfl, rfl, [event], rfl, fun e he ↦ by rwa [List.mem_singleton.mp he]⟩

theorem aside_setState (state : ConnectionState) (s : Session D) : Aside s (s.setState state) := by
  rw [setState]
  split
  · exact Aside.refl s
  · refine Aside.trans ?_ (aside_emit rfl _)
    exact Aside.of_eq rfl rfl rfl rfl rfl

/-- Apart from the table itself, a device id mapping stands aside. -/
theorem aside_processDeviceIdMapping (message : DeviceIdMappingMessage) (s : Session D) :
    Aside { s with client := { s.client with mapping := (s.client.mapping.apply message).2 } }
      (s.processDeviceIdMapping message) := by
  have hemit : ∀ (p : Bool) {event : Event}, event.tells = false → ∀ s : Session D,
      Aside s (if p then s.emit event else s) := by
    intro p event htells s
    cases p with
    | true => exact aside_emit htells s
    | false => exact Aside.refl s
  rw [processDeviceIdMapping]
  dsimp only
  refine Aside.trans ?_ (hemit _ rfl _)
  split
  · exact Aside.of_events_eq rfl (fun _ ↦ rfl) rfl rfl rfl rfl
  · refine Aside.trans ?_ (aside_emit rfl _)
    exact Aside.of_events_eq rfl (fun _ ↦ rfl) rfl rfl rfl rfl

/-- The device id mapping that a control payload carries, if it carries one. -/
def mappingOf (payload : Bytes) : Option DeviceIdMappingMessage :=
  if peekMessageType payload = MessageType.deviceIdMapping.code then
    (deserializeDeviceIdMapping.run payload).1
  else none

variable [Double D]

theorem aside_startTransport (s : Session D) : Aside s s.startTransport := by
  rw [startTransport]
  dsimp only
  split
  · exact Aside.of_eq rfl rfl rfl rfl rfl
  · exact Aside.of_eq rfl rfl rfl rfl rfl

/-- Once the last session is wiped out, `connect` only looks for a server. -/
theorem aside_connect (config : ClientConfig D) {s : Session D}
    (hstate : s.client.state = .disconnected ∨ s.client.state = .error) :
    Aside (s.beginSession config) (s.connect config).2 := by
  have hfree : ¬(s.client.state ≠ .disconnected ∧ s.client.state ≠ .error) := by tauto
  rw [connect, if_neg hfree]
  generalize s.beginSession config = begun
  dsimp only
  split
  · refine Aside.trans ?_ (aside_startTransport _)
    exact Aside.of_eq rfl rfl rfl rfl rfl
  · split
    · exact Aside.of_eq rfl rfl rfl rfl rfl
    · split <;> exact Aside.of_eq rfl rfl rfl rfl rfl

theorem aside_handleNotification (s : Session D) (notification : Notification) :
    Aside s (s.handleNotification notification) := by
  cases notification with
  | connected => exact aside_setState .connected s
  | error text => exact (aside_setState .error s).trans (aside_emit rfl _)
  | log text => exact aside_emit rfl s
  | discovered server =>
    refine Aside.trans (Aside.trans ?_ (aside_emit rfl _)) (aside_startTransport _)
    exact Aside.of_eq rfl rfl rfl rfl rfl

theorem aside_drainInternalEvents (s : Session D) : Aside s s.drainInternalEvents :=
  (aside_shared s.shared.takeNotifications.2 s).trans (Aside.foldl aside_handleNotification _ _)

theorem aside_updateReady (s : Session D) : Aside s s.updateReady := by
  rw [updateReady]
  split
  · exact Aside.refl s
  · rcases hready : s.isReady with ⟨ready, s₁⟩
    have hasked : Aside s s₁ := by
      obtain ⟨-, rfl⟩ := Prod.mk.inj hready
      exact aside_shared _ s
    refine hasked.trans ?_
    cases ready with
    | true =>
      refine (aside_setState .ready s₁).trans ?_
      dsimp only
      split
      · exact Aside.refl _
      · refine Aside.trans ?_ (aside_emit rfl _)
        exact Aside.of_eq rfl rfl rfl rfl rfl
    | false =>
      dsimp only
      split
      · exact (aside_setState .synchronizing s₁).trans (Aside.of_eq rfl rfl rfl rfl rfl)
      · exact Aside.refl s₁

theorem aside_greet (now : D) (s : Session D) : Aside s (s.greet now) := by
  rw [greet]
  split
  · let m := s.client.networkVariables.onConnectionEstablished now
    have hclock : Aside s { s with client := { s.client with networkVariables := m } } :=
      Aside.of_events_eq rfl (fun _ ↦ rfl) rfl rfl rfl rfl
    have hhello : ∀ s : Session D, Aside s s.enqueueHello := by
      intro s
      rw [enqueueHello]
      split <;> exact Aside.of_eq rfl rfl rfl rfl rfl
    dsimp only
    split
    · exact (hclock.trans (hhello _)).trans (aside_setState .synchronizing _)
    · exact hclock.trans (hhello _)
  · exact Aside.refl s

/-! ### Messages about other things -/

theorem aside_processRpc (decode : Bytes → Option (List Bytes)) (message : RpcMessage)
    (s : Session D) : Aside s (s.processRpc decode message) := by
  rw [processRpc]
  split
  · exact aside_emit rfl s
  · exact Aside.trans (aside_shared _ s) (aside_emit rfl _)

theorem aside_processOwnershipChanged (message : ObjectOwnershipChangedMessage) (s : Session D) :
    Aside s (s.processOwnershipChanged message) := by
  refine Aside.trans ?_ (aside_emit rfl _)
  exact Aside.of_eq rfl rfl rfl rfl rfl

theorem aside_processRoomObjects (payload : Bytes) (s : Session D) :
    Aside s (s.processRoomObjects payload) := by
  rw [processRoomObjects]
  split
  · exact aside_shared _ s
  · refine ⟨rfl, fun _ ↦ rfl, rfl, rfl, rfl, _, rfl, fun event hevent ↦ ?_⟩
    obtain ⟨change, -, rfl⟩ := List.mem_map.mp hevent
    rfl

/-- **What a control payload can do**: it is a device id mapping, or it stands aside, or it is one
of the two variable syncs. -/
theorem processControlPayload_cases (decode : Bytes → Option (List Bytes)) (s : Session D)
    (payload : Bytes) :
    (∃ message, mappingOf payload = some message ∧
      s.processControlPayload decode payload = s.processDeviceIdMapping message) ∨
    mappingOf payload = none ∧
      (Aside s (s.processControlPayload decode payload) ∨
        (∃ message, s.processControlPayload decode payload = s.processGlobalVarSync message) ∨
        (∃ message, s.processControlPayload decode payload = s.processClientVarSync message)) := by
  rw [processControlPayload, mappingOf]
  split
  · split
    · next hmalformed => exact Or.inr ⟨hmalformed, Or.inl (aside_shared _ s)⟩
    · next message hmessage => exact Or.inl ⟨message, hmessage, rfl⟩
  refine Or.inr ⟨rfl, ?_⟩
  split
  · split
    · exact Or.inl (aside_shared _ s)
    · exact Or.inl (aside_processRpc decode _ s)
  split
  · split
    · exact Or.inl (aside_shared _ s)
    · next message _ => exact Or.inr (Or.inl ⟨message, rfl⟩)
  split
  · split
    · exact Or.inl (aside_shared _ s)
    · next message _ => exact Or.inr (Or.inr ⟨message, rfl⟩)
  split
  · split
    · exact Or.inl (aside_shared _ s)
    · exact Or.inl (aside_processOwnershipChanged _ s)
  split
  · split
    · exact Or.inl (aside_shared _ s)
    · exact Or.inl (aside_emit rfl s)
  · exact Or.inl (Aside.refl s)

/-! ### Flushing -/

theorem aside_tickVariables (now : D) (s : Session D) : Aside s (s.tickVariables now) :=
  Aside.of_events_eq rfl (fun _ ↦ rfl) rfl rfl rfl rfl

theorem aside_tickObjects (now : D) (s : Session D) : Aside s (s.tickObjects now) :=
  Aside.of_eq rfl rfl rfl rfl rfl

theorem aside_checkInitialSyncTimeout (now : D) (s : Session D) :
    Aside s (s.checkInitialSyncTimeout now) := by
  rw [checkInitialSyncTimeout, NetworkVariableManager.checkInitialSyncTimeout]
  split_ifs
  · exact Aside.of_eq rfl rfl rfl rfl rfl
  · exact Aside.of_eq rfl rfl rfl rfl rfl
  · exact Aside.of_events_eq rfl (fun _ ↦ rfl) rfl rfl rfl rfl

end Session

namespace Session

variable {D : Type} [DoubleTrig D]

/-- A room pose stands aside if it is malformed or of another room. -/
theorem processRoomPose_cases (payload : Bytes) (s : Session D) :
    Aside s (s.processRoomPose payload) ∨
    ∃ message, (deserializeRoomPose.run payload).1 = some message ∧
      message.roomId = s.client.config.roomId ∧
      s.processRoomPose payload = s.applyRoomPose message := by
  rw [processRoomPose]
  split
  · exact Or.inl (aside_shared _ s)
  · next message hmessage =>
    split
    · exact Or.inl (Aside.refl s)
    · next hroom => exact Or.inr ⟨message, hmessage, not_not.mp hroom, rfl⟩

theorem aside_sendLocalPoseIfDue (now : D) (s : Session D) :
    Aside s (s.sendLocalPoseIfDue now) := by
  rw [sendLocalPoseIfDue]
  split
  · exact aside_shared _ s
  · dsimp only
    split
    · exact aside_shared _ s
    · split
      · exact aside_shared _ s
      · split <;> exact Aside.of_eq rfl rfl rfl rfl rfl

theorem aside_setGlobalVariable (name value : Bytes) (s : Session D) :
    Aside s (s.setGlobalVariable name value).2 := by
  rcases hcall : s.client.networkVariables.setGlobal Shared.callbacks s.shared.monotonicSeconds.1
    name value s.shared.monotonicSeconds.2 with ⟨ok, m, w⟩
  have hresult : (s.setGlobalVariable name value).2 =
      { s with client := { s.client with networkVariables := m }, shared := w } := by
    rw [setGlobalVariable]
    dsimp only
    rw [hcall]
  rw [hresult]
  obtain ⟨-, rfl, -⟩ | ⟨-, -, -, side, -, rfl⟩ := NetworkVariableManager.setGlobal_cases hcall
  · exact Aside.of_eq rfl rfl rfl rfl rfl
  · exact Aside.of_events_eq rfl (fun _ ↦ rfl) rfl rfl rfl rfl

/-- Looking up a client that was never heard of leaves an empty entry, which reads the same. -/
theorem aside_setClientVariableFor (target : ℤ) (name value : Bytes) (s : Session D) :
    Aside s (s.setClientVariableFor target name value).2 := by
  rcases hcall : s.client.networkVariables.setClient Shared.callbacks s.shared.monotonicSeconds.1
    target name value s.shared.monotonicSeconds.2 with ⟨ok, m, w⟩
  have hresult : (s.setClientVariableFor target name value).2 =
      { s with client := { s.client with networkVariables := m }, shared := w } := by
    rw [setClientVariableFor]
    dsimp only
    rw [hcall]
  rw [hresult]
  obtain ⟨-, rfl | rfl, -⟩ | ⟨-, -, -, side, -, rfl⟩ := NetworkVariableManager.setClient_cases hcall
  · exact Aside.of_eq rfl rfl rfl rfl rfl
  · exact Aside.of_events_eq rfl
      (s.client.networkVariables.allClientVariables_touchClient target) rfl rfl rfl rfl
  · exact Aside.of_events_eq rfl
      (s.client.networkVariables.allClientVariables_touchClient target) rfl rfl rfl rfl

variable [DoubleText D]

theorem aside_flushRpc (now : D) (s : Session D) : Aside s (s.flushRpc now) :=
  Aside.of_eq rfl rfl rfl rfl rfl

theorem aside_flush (now : D) (s : Session D) : Aside s (s.flush now) :=
  ((((aside_tickVariables now s).trans (aside_flushRpc now _)).trans
    (aside_sendLocalPoseIfDue now _)).trans (aside_tickObjects now _)).trans
    (aside_checkInitialSyncTimeout now _)

/-! ### The poll -/

/-- A client without a session does nothing. -/
theorem poll_of_disconnected (decode : Bytes → Option (List Bytes)) (now : D) {s : Session D}
    (h : s.client.state = .disconnected) : s.poll decode now = ([], s) :=
  if_pos h

/-- What the poll finds in the inbox: what was there before, and what comes in while it drains the
notifications and says hello. -/
def mailOfPoll (now : D) (s : Session D) : Shared.Mail :=
  (({ s with events := [] } : Session D).drainInternalEvents.greet now).shared.takeMail.1

/-- **A poll is its mail**: the room pose and then the control messages. What comes before and what
comes after stands aside. -/
theorem poll_parts (decode : Bytes → Option (List Bytes)) (now : D) {s : Session D}
    (hstate : s.client.state ≠ .disconnected) :
    ∃ s₁, Aside { s with events := [] } s₁ ∧
      Aside ((s.mailOfPoll now).control.foldl (processControlPayload decode)
          ((s.mailOfPoll now).roomPose.elim s₁ s₁.processRoomPose))
        (s.poll decode now).2 ∧
      (s.poll decode now).1 = (s.poll decode now).2.events := by
  let s₀ := ({ s with events := [] } : Session D).drainInternalEvents.greet now
  have hbefore : Aside { s with events := [] } s₀ :=
    (aside_drainInternalEvents _).trans (aside_greet now _)
  have hpoll : s.poll decode now =
      (((s₀.drainInbox decode).flush now).updateReady.events,
        ((s₀.drainInbox decode).flush now).updateReady) := by
    rw [poll, if_neg hstate]
  have hafter : Aside (s₀.drainInbox decode) ((s₀.drainInbox decode).flush now).updateReady :=
    (aside_flush now _).trans (aside_updateReady _)
  rw [hpoll]
  generalize ((s₀.drainInbox decode).flush now).updateReady = s₂ at hafter ⊢
  refine ⟨{ s₀ with shared := s₀.shared.takeMail.2 }, hbefore.trans (aside_shared _ _), ?_, rfl⟩
  refine Aside.trans ?_ hafter
  show Aside _ (processMail decode (s.mailOfPoll now) _)
  rw [processMail]
  rcases (s.mailOfPoll now).roomObjects with - | payload
  · rcases (s.mailOfPoll now).roomPose with - | pose
    · exact Aside.refl _
    · exact Aside.refl _
  · rcases (s.mailOfPoll now).roomPose with - | pose
    · exact aside_processRoomObjects payload _
    · exact aside_processRoomObjects payload _

/-! ### Other calls of the host -/

theorem aside_rpcToMany (targets : List ℤ) (functionName : Bytes) (args : List Bytes)
    (s : Session D) : Aside s (s.rpcToMany targets functionName args) :=
  Aside.of_eq rfl rfl rfl rfl rfl

/-- **Calls that stand aside**: all but the poll and the clearing of the own variables. -/
theorem aside_perform (decode : Bytes → Option (List Bytes)) (s : Session D) {call : HostCall D}
    (hpoll : ∀ now, call ≠ .poll now) (hclear : call ≠ .clearMyClientVariables) :
    Aside s (s.perform decode call) := by
  cases call with
  | poll now => exact absurd rfl (hpoll now)
  | clearMyClientVariables => exact absurd rfl hclear
  | setGlobalVariable name value => exact aside_setGlobalVariable name value s
  | setClientVariable name value => exact aside_setClientVariableFor _ name value s
  | setClientVariableFor target name value => exact aside_setClientVariableFor target name value s
  | requestObjectOwnership objectId => exact Aside.of_eq rfl rfl rfl rfl rfl
  | releaseObjectOwnership objectId => exact Aside.of_eq rfl rfl rfl rfl rfl
  | rpc functionName args => exact aside_rpcToMany [] functionName args s
  | rpcTo target functionName args => exact aside_rpcToMany [target] functionName args s
  | rpcToMany targets functionName args => exact aside_rpcToMany _ functionName args s
  | configureRpcRateLimit rpcLimit windowSeconds warnCooldown =>
    exact Aside.of_eq rfl rfl rfl rfl rfl
  | setTransformSendRate rate => exact Aside.of_eq rfl rfl rfl rfl rfl
  | setLocalPose body => exact Aside.of_eq rfl rfl rfl rfl rfl
  | clearLocalPose => exact Aside.of_eq rfl rfl rfl rfl rfl
  | registerObject objectId => exact Aside.of_eq rfl rfl rfl rfl rfl
  | unregisterObject objectId => exact Aside.of_eq rfl rfl rfl rfl rfl
  | submitObjectPose objectId pose => exact Aside.of_eq rfl rfl rfl rfl rfl

/-- Outside the poll no one comes and no one goes. -/
theorem presence_perform (decode : Bytes → Option (List Bytes)) (s : Session D)
    {call : HostCall D} (hpoll : ∀ now, call ≠ .poll now) :
    (s.perform decode call).client.mapping = s.client.mapping ∧
      (s.perform decode call).client.remotePoses = s.client.remotePoses := by
  by_cases hclear : call = .clearMyClientVariables
  · subst hclear
    exact ⟨rfl, rfl⟩
  · have haside := aside_perform decode s hpoll hclear
    exact ⟨haside.mapping, haside.remotePoses⟩

/-! ### What the host gets to see -/

/-- The events that a step returns to the host. -/
def returned (decode : Bytes → Option (List Bytes)) (s : Session D) :
    SessionStep D → List Event
  | .call (.poll now) schedule =>
    (({ s with shared := { s.shared with schedule := schedule } } : Session D).poll decode now).1
  | _ => []

/-- Nothing is returned by any other call than the poll. -/
theorem returned_of_ne (decode : Bytes → Option (List Bytes)) (s : Session D)
    {call : HostCall D} (schedule : List (List (NetworkStep D)))
    (h : ∀ now, call ≠ .poll now) : s.returned decode (.call call schedule) = [] := by
  cases call with
  | poll now => exact absurd rfl (h now)
  | _ => rfl

end Session

end StylyNetSync
