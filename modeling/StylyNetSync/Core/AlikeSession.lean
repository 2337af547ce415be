import StylyNetSync.Core.AlikeManagers
import StylyNetSync.Core.AlikeShared

/-!
# Two sessions side by side: the client

The two clients are the same but for their managers of calls, which are alike, and the events that
they have gathered are the same but for the log. Every call and every step keeps this.

Kept on the way, for later: the record of an object has the id that the object is registered under.
-/

namespace StylyNetSync

variable {D : Type}

/-- What is not only a line for the log. -/
def Event.matters : Event → Bool
  | .log _ => false
  | _ => true

namespace ObjectSyncManager

/-- Every record has the id of its object. -/
def Labelled (objects : OrderedMap UInt32 (ObjectEntry D)) : Prop :=
  ∀ (objectId : UInt32) (entry : ObjectEntry D), objects[objectId]? = some entry →
    entry.state.objectId = objectId

section Labelled

variable {objects : OrderedMap UInt32 (ObjectEntry D)} {m : ObjectSyncManager D}

theorem Labelled.insert (h : Labelled objects) {objectId : UInt32} {entry : ObjectEntry D}
    (hentry : entry.state.objectId = objectId) : Labelled (objects.insert objectId entry) := by
  intro objectId' entry' hget
  rw [OrderedMap.get?_insert] at hget
  split at hget
  · next heq =>
    rw [← Option.some.inj hget, hentry, heq]
  · exact h objectId' entry' hget

theorem Labelled.erase (h : Labelled objects) (objectId : UInt32) :
    Labelled (objects.erase objectId) := by
  intro objectId' entry' hget
  rw [OrderedMap.get?_erase] at hget
  split at hget
  · simp at hget
  · exact h objectId' entry' hget

theorem labelled_submitLocalPose (h : Labelled m.objects) (objectId : UInt32)
    (pose : PoseTransform D) : Labelled (m.submitLocalPose objectId pose).objects := by
  rw [submitLocalPose]
  split
  · exact h
  · next entry hentry => exact h.insert (h objectId entry hentry)

theorem labelled_handleRoomObjects (h : Labelled m.objects) (message : RoomObjectsMessage D) :
    Labelled (m.handleRoomObjects message).1.objects := by
  rw [handleRoomObjects]
  refine List.foldlRecOn
    (motive := fun acc : ObjectSyncManager D × List OwnershipChange ↦ Labelled acc.1.objects)
    message.objects (handleRoomObject message.broadcastTime) h ?_
  intro acc hacc state _
  rw [handleRoomObject]
  split
  · exact hacc
  · next entry hentry =>
    refine hacc.insert ?_
    dsimp only
    split
    · exact hacc _ _ hentry
    · exact hacc _ _ hentry

variable [Double D]

theorem labelled_registerObject {ω : Type} (h : Labelled m.objects) (callbacks : Callbacks ω)
    (objectId : UInt32) (w : ω) : Labelled (m.registerObject callbacks objectId w).2.1.objects := by
  rw [registerObject]
  split
  · exact h
  · exact h.insert rfl

theorem labelled_tick {ω : Type} (h : Labelled m.objects) (send : UInt32 → Bytes → ω → ω)
    (now rate : D) (w : ω) : Labelled (m.tick (some send) now rate w).1.objects := by
  rw [tick]
  split
  · exact h
  · refine List.foldlRecOn
      (motive := fun acc : OrderedMap UInt32 (ObjectEntry D) × ω ↦ Labelled acc.1)
      m.objects.toList _ h ?_
    intro acc hacc pair hpair
    rw [tickEntry]
    split
    · exact hacc
    · have hlabel : pair.2.state.objectId = pair.1 :=
        h _ _ (Std.ExtTreeMap.mem_toList_iff_getElem?_eq_some.mp hpair)
      exact hacc.insert hlabel

theorem labelled_handleOwnershipChanged (h : Labelled m.objects)
    (message : ObjectOwnershipChangedMessage) :
    Labelled (m.handleOwnershipChanged message).1.objects := by
  rw [handleOwnershipChanged]
  dsimp only
  split
  · exact h
  · next entry hentry =>
    have hlabel : entry.state.objectId = message.objectId := h _ _ hentry
    refine h.insert ?_
    split
    · exact hlabel
    · exact hlabel

theorem labelled_clearRoomScopedState (h : Labelled m.objects) :
    Labelled m.clearRoomScopedState.objects := by
  intro objectId entry hget
  rw [get?_clearRoomScopedState] at hget
  obtain ⟨kept, hkept, rfl⟩ := Option.map_eq_some_iff.mp hget
  exact h objectId kept hkept

end Labelled

end ObjectSyncManager

/-- The client with another manager of calls. -/
def NetSyncClient.withRpcManager (c : NetSyncClient D) (rpcManager : RpcManager D) :
    NetSyncClient D :=
  { c with rpcManager := rpcManager }

/-- The steps of other threads that come in during a step. -/
def SessionStep.schedule : SessionStep D → List (List (NetworkStep D))
  | .network _ => []
  | .call _ schedule => schedule

def LifeStep.schedule : LifeStep D → List (List (NetworkStep D))
  | .connect _ schedule => schedule
  | .disconnect schedule => schedule
  | .session e => e.schedule

theorem Shared.callbacks_respect [Double D] (k : TransportCounters) (b : Prop) :
    (Shared.callbacks : Callbacks (Shared D)).Respect b (Shared.Alike k b) where
  trySend message h := h.tryEnqueueControl message
  log line h := h.pushLog line
  logLeft line hb h := h.pushLog_left hb line
  logRight line hb h := h.pushLog_right hb line

namespace Session

/-- The second half of `connect`: a server is addressed, or looked for. -/
def seekServer [Double D] (config : ClientConfig D) (s : Session D) : Bool × Session D :=
  if !config.serverAddress.isEmpty then
    let s := { s with client := { s.client with resolvedAddress := config.serverAddress } }
    (true, s.startTransport)
  else if !config.enableDiscovery then
    let s := { s with client := { s.client with state := .error } }
    (false, s.pushLog "no server address configured and discovery is disabled")
  else
    match s.shared.startDiscovery with
    | (true, w) => (true, { s with shared := w })
    | (false, w) =>
      let s := { s with shared := w, client := { s.client with state := .error } }
      (false, s.pushLog "failed to start server discovery")

theorem connect_eq [Double D] (config : ClientConfig D) (s : Session D) :
    s.connect config =
      if s.client.state ≠ .disconnected ∧ s.client.state ≠ .error then (false, s)
      else (s.beginSession config).seekServer config :=
  rfl

/-- The sessions agree in all that a call can read, but for the log. -/
structure Alike (k : TransportCounters) (b : Prop) (s s' : Session D) : Prop where
  client : s'.client = s.client.withRpcManager s'.client.rpcManager
  rpcManager : RpcManager.Alike b s.client.rpcManager s'.client.rpcManager
  shared : Shared.Alike k b s.shared s'.shared
  events : s'.events.filter Event.matters = s.events.filter Event.matters
  labelled : ObjectSyncManager.Labelled s.client.objects.objects

namespace Alike

variable {k : TransportCounters} {b : Prop} {s s' : Session D}

/-- Whatever does not look at the manager of calls sees the same. -/
theorem field {α : Type} (h : Alike k b s s') (g : NetSyncClient D → α)
    (hg : ∀ c r, g (NetSyncClient.withRpcManager c r) = g c) : g s'.client = g s.client := by
  rw [h.client, hg]

theorem state (h : Alike k b s s') : s'.client.state = s.client.state :=
  h.field (·.state) fun _ _ ↦ rfl

theorem config (h : Alike k b s s') : s'.client.config = s.client.config :=
  h.field (·.config) fun _ _ ↦ rfl

theorem mapping (h : Alike k b s s') : s'.client.mapping = s.client.mapping :=
  h.field (·.mapping) fun _ _ ↦ rfl

theorem networkVariables (h : Alike k b s s') :
    s'.client.networkVariables = s.client.networkVariables :=
  h.field (·.networkVariables) fun _ _ ↦ rfl

theorem objects (h : Alike k b s s') : s'.client.objects = s.client.objects :=
  h.field (·.objects) fun _ _ ↦ rfl

/-! ### Parts -/

/-- A change that leaves the managers of calls and of objects alone. -/
theorem withClient (h : Alike k b s s') (f : NetSyncClient D → NetSyncClient D)
    (hf : ∀ c r, f (NetSyncClient.withRpcManager c r) = (f c).withRpcManager r)
    (hlabelled : ObjectSyncManager.Labelled (f s.client).objects.objects) :
    Alike k b { s with client := f s.client } { s' with client := f s'.client } := by
  have hkept (c : NetSyncClient D) : (f c).rpcManager = c.rpcManager := by
    show (f (c.withRpcManager c.rpcManager)).rpcManager =
      ((f c).withRpcManager c.rpcManager).rpcManager
    rw [hf]
  refine ⟨?_, ?_, h.shared, h.events, hlabelled⟩
  · show f s'.client = (f s.client).withRpcManager (f s'.client).rpcManager
    rw [hkept, ← hf, ← h.client]
  · show RpcManager.Alike b (f s.client).rpcManager (f s'.client).rpcManager
    rw [hkept, hkept]
    exact h.rpcManager

theorem withShared (h : Alike k b s s') {w w' : Shared D} (hw : Shared.Alike k b w w') :
    Alike k b { s with shared := w } { s' with shared := w' } :=
  { h with shared := hw }

/-- Another manager of calls on each side. -/
theorem withRpcManager (h : Alike k b s s') {m m' : RpcManager D} {w w' : Shared D}
    (hr : RpcManager.AlikeIn b (Shared.Alike k b) (m, w) (m', w')) :
    Alike k b { s with client := { s.client with rpcManager := m }, shared := w }
      { s' with client := { s'.client with rpcManager := m' }, shared := w' } := by
  refine ⟨?_, hr.1, hr.2, h.events, h.labelled⟩
  rw [h.client]
  rfl

/-- The same manager of variables on both sides. -/
theorem withNetworkVariables (h : Alike k b s s') (m : NetworkVariableManager D) {w w' : Shared D}
    (hw : Shared.Alike k b w w') :
    Alike k b { s with client := { s.client with networkVariables := m }, shared := w }
      { s' with client := { s'.client with networkVariables := m }, shared := w' } :=
  (h.withClient (fun c ↦ { c with networkVariables := m }) (fun _ _ ↦ rfl) h.labelled).withShared hw

theorem withEvents (h : Alike k b s s') (more : List Event) :
    Alike k b { s with events := s.events ++ more } { s' with events := s'.events ++ more } := by
  refine { h with events := ?_ }
  rw [List.filter_append, List.filter_append, h.events]

theorem emit (h : Alike k b s s') (event : Event) : Alike k b (s.emit event) (s'.emit event) :=
  h.withEvents [event]

/-- A log event on one side only. -/
theorem emit_log_left (h : Alike k b s s') (line : String) :
    Alike k b (s.emit (.log line)) s' := by
  refine { h with events := ?_ }
  show _ = (s.events ++ [Event.log line]).filter _
  rw [List.filter_append, h.events]
  exact (List.append_nil _).symm

theorem emit_log_right (h : Alike k b s s') (line : String) :
    Alike k b s (s'.emit (.log line)) := by
  refine { h with events := ?_ }
  show (s'.events ++ [Event.log line]).filter _ = _
  rw [List.filter_append, h.events]
  exact List.append_nil _

theorem setState (h : Alike k b s s') (state : ConnectionState) :
    Alike k b (s.setState state) (s'.setState state) := by
  rw [Session.setState, Session.setState, h.state]
  split
  · exact h
  · exact (h.withClient (fun c ↦ { c with state := state }) (fun _ _ ↦ rfl) h.labelled).emit _

variable [Double D]

theorem pushLog (h : Alike k b s s') (line : String) :
    Alike k b (s.pushLog line) (s'.pushLog line) :=
  h.withShared (h.shared.pushLog line)

theorem startTransport (h : Alike k b s s') : Alike k b s.startTransport s'.startTransport := by
  have hflag := h.withClient (fun c ↦ { c with helloEnqueued := false }) (fun _ _ ↦ rfl) h.labelled
  have hroom : s'.client.config.roomId = s.client.config.roomId := by rw [h.config]
  obtain ⟨ok, w, w', heq, heq', hw⟩ :=
    (h.shared.startTransport s.client.config.roomId).exists_eq
  rw [Session.startTransport, Session.startTransport]
  dsimp only
  rw [hroom, heq, heq']
  cases ok with
  | true => exact hflag.withShared hw
  | false => exact (hflag.withShared hw).pushLog _

theorem isReady (h : Alike k b s s') : Replies (Alike k b) s.isReady s'.isReady := by
  obtain ⟨connected, w, w', heq, heq', hw⟩ := h.shared.isConnected.exists_eq
  have hhandshake : s'.client.hasHandshake = s.client.hasHandshake :=
    h.field NetSyncClient.hasHandshake fun _ _ ↦ rfl
  have hsync : s'.client.networkVariables.hasReceivedInitialSync =
      s.client.networkVariables.hasReceivedInitialSync := by rw [h.networkVariables]
  rw [Session.isReady, Session.isReady, heq, heq', hhandshake, hsync]
  exact Replies.mk (h.withShared hw)

/-! ### Inbound messages -/

theorem handleNotification (h : Alike k b s s') (notification : Notification) :
    Alike k b (s.handleNotification notification) (s'.handleNotification notification) := by
  cases notification with
  | connected => exact h.setState .connected
  | error text => exact (h.setState .error).emit _
  | log text => exact h.emit _
  | discovered server =>
    refine Alike.startTransport (Alike.emit ?_ _)
    exact h.withClient
      (fun c ↦ { c with
        resolvedAddress := server.address
        discoveredRestApiPort := server.restApiPort }) (fun _ _ ↦ rfl) h.labelled

/-- Log lines may wait on one side only. -/
theorem drainInternalEvents (h : Alike k b s s') :
    Alike k b s.drainInternalEvents s'.drainInternalEvents := by
  obtain ⟨htaken, hw⟩ := h.shared.takeNotifications
  rw [Session.drainInternalEvents, Session.drainInternalEvents]
  refine foldl_rel_filter (p := Notification.matters) (fun _ _ n hs ↦ hs.handleNotification n)
    (fun s s' n hn hs ↦ ?_) (fun s s' n hn hs ↦ ?_) htaken (h.withShared hw)
  · cases n with
    | log line => exact hs.emit_log_left line
    | _ => simp [Notification.matters] at hn
  · cases n with
    | log line => exact hs.emit_log_right line
    | _ => simp [Notification.matters] at hn

omit [Double D] in
theorem processDeviceIdMapping (h : Alike k b s s') (message : DeviceIdMappingMessage) :
    Alike k b (s.processDeviceIdMapping message) (s'.processDeviceIdMapping message) := by
  let learn (c : NetSyncClient D) : NetSyncClient D :=
    { c with
      mapping := (c.mapping.apply message).2
      networkVariables := c.networkVariables.setLocalIdentity
        (c.mapping.apply message).2.localClientNo c.config.deviceId
      objects := c.objects.setLocalIdentity
        (c.mapping.apply message).2.localClientNo c.config.deviceId }
  have hlearnt := h.withClient learn (fun _ _ ↦ rfl) h.labelled
  have hresult : (s'.client.mapping.apply message).1 = (s.client.mapping.apply message).1 := by
    rw [h.mapping]
  have hchecked := h.field (·.versionChecked) fun _ _ ↦ rfl
  rw [Session.processDeviceIdMapping, Session.processDeviceIdMapping]
  dsimp only
  rw [hresult]
  -- the version is reported once, on both sides or on none
  have hversion : Alike k b
      (if s.client.versionChecked then { s with client := learn s.client }
        else { s with client := { learn s.client with versionChecked := true } }.emit
          (.serverVersion (s.client.mapping.apply message).1.serverVersionMajor
            (s.client.mapping.apply message).1.serverVersionMinor
            (s.client.mapping.apply message).1.serverVersionPatch))
      (if s'.client.versionChecked then { s' with client := learn s'.client }
        else { s' with client := { learn s'.client with versionChecked := true } }.emit
          (.serverVersion (s.client.mapping.apply message).1.serverVersionMajor
            (s.client.mapping.apply message).1.serverVersionMinor
            (s.client.mapping.apply message).1.serverVersionPatch)) := by
    refine ite_rel (by rw [hchecked]) (fun _ ↦ hlearnt) fun _ ↦ ?_
    exact (hlearnt.withClient (fun c ↦ { c with versionChecked := true }) (fun _ _ ↦ rfl)
      h.labelled).emit _
  split
  · exact hversion.emit _
  · exact hversion

theorem processRpc (h : Alike k b s s') (decode : Bytes → Option (List Bytes))
    (message : RpcMessage) :
    Alike k b (s.processRpc decode message) (s'.processRpc decode message) := by
  rw [Session.processRpc, Session.processRpc]
  split
  · exact h.emit _
  · exact (h.pushLog _).emit _

omit [Double D] in
theorem processGlobalVarSync (h : Alike k b s s') (message : GlobalVarSyncMessage) :
    Alike k b (s.processGlobalVarSync message) (s'.processGlobalVarSync message) := by
  have hchanges : (s'.client.networkVariables.handleGlobalSync message).2 =
      (s.client.networkVariables.handleGlobalSync message).2 := by rw [h.networkVariables]
  rw [Session.processGlobalVarSync, Session.processGlobalVarSync]
  dsimp only
  rw [hchanges]
  exact (h.withClient
    (fun c ↦ { c with networkVariables := (c.networkVariables.handleGlobalSync message).1 })
    (fun _ _ ↦ rfl) h.labelled).withEvents _

omit [Double D] in
theorem processClientVarSync (h : Alike k b s s') (message : ClientVarSyncMessage) :
    Alike k b (s.processClientVarSync message) (s'.processClientVarSync message) := by
  have hchanges : (s'.client.networkVariables.handleClientSync message).2 =
      (s.client.networkVariables.handleClientSync message).2 := by rw [h.networkVariables]
  rw [Session.processClientVarSync, Session.processClientVarSync]
  dsimp only
  rw [hchanges]
  have htold := (h.withClient
    (fun c ↦ { c with networkVariables := (c.networkVariables.handleClientSync message).1 })
    (fun _ _ ↦ rfl) h.labelled).withEvents
      ((s.client.networkVariables.handleClientSync message).2.map .clientVariableChanged)
  exact ⟨htold.client, htold.rpcManager, htold.shared, htold.events, htold.labelled⟩

theorem processOwnershipChanged (h : Alike k b s s') (message : ObjectOwnershipChangedMessage) :
    Alike k b (s.processOwnershipChanged message) (s'.processOwnershipChanged message) := by
  have hchange : (s'.client.objects.handleOwnershipChanged message).2 =
      (s.client.objects.handleOwnershipChanged message).2 := by rw [h.objects]
  rw [Session.processOwnershipChanged, Session.processOwnershipChanged]
  dsimp only
  rw [hchange]
  exact (h.withClient
    (fun c ↦ { c with objects := (c.objects.handleOwnershipChanged message).1 }) (fun _ _ ↦ rfl)
    (ObjectSyncManager.labelled_handleOwnershipChanged h.labelled message)).emit _

theorem processRoomObjects (h : Alike k b s s') (payload : Bytes) :
    Alike k b (s.processRoomObjects payload) (s'.processRoomObjects payload) := by
  rw [Session.processRoomObjects, Session.processRoomObjects]
  split
  · exact h.pushLog _
  · next message _ =>
    have hchanges : (s'.client.objects.handleRoomObjects message).2 =
        (s.client.objects.handleRoomObjects message).2 := by rw [h.objects]
    dsimp only
    rw [hchanges]
    exact (h.withClient (fun c ↦ { c with objects := (c.objects.handleRoomObjects message).1 })
      (fun _ _ ↦ rfl)
      (ObjectSyncManager.labelled_handleRoomObjects h.labelled message)).withEvents _

theorem processControlPayload (h : Alike k b s s') (decode : Bytes → Option (List Bytes))
    (payload : Bytes) :
    Alike k b (s.processControlPayload decode payload)
      (s'.processControlPayload decode payload) := by
  rw [Session.processControlPayload, Session.processControlPayload]
  split
  · split
    · exact h.pushLog _
    · exact h.processDeviceIdMapping _
  split
  · split
    · exact h.pushLog _
    · exact h.processRpc decode _
  split
  · split
    · exact h.pushLog _
    · exact h.processGlobalVarSync _
  split
  · split
    · exact h.pushLog _
    · exact h.processClientVarSync _
  split
  · split
    · exact h.pushLog _
    · exact h.processOwnershipChanged _
  split
  · split
    · exact h.pushLog _
    · exact h.emit _
  · exact h

omit [Double D] in
theorem applyRoomPose (h : Alike k b s s') (message : RoomPoseMessage D) :
    Alike k b (s.applyRoomPose message) (s'.applyRoomPose message) := by
  -- what becomes of the client hangs on the client alone
  have hclient := h.withClient
    (fun c ↦ (({ s with client := c } : Session D).applyRoomPose message).client) (fun _ _ ↦ rfl)
    h.labelled
  refine { hclient with events := ?_ }
  rw [Session.applyRoomPose, Session.applyRoomPose]
  dsimp only
  rw [h.mapping]
  simp only [List.filter_append, h.events]

theorem updateReady (h : Alike k b s s') : Alike k b s.updateReady s'.updateReady := by
  obtain ⟨ready, s₁, s₁', heq, heq', h₁⟩ := h.isReady.exists_eq
  rw [Session.updateReady, Session.updateReady, h.state, heq, heq']
  split
  · exact h
  cases ready with
  | true =>
    have hset := h₁.setState .ready
    have hfired := hset.field (·.readyFired) fun _ _ ↦ rfl
    have hnumber : (s₁'.setState .ready).client.mapping.localClientNo =
        (s₁.setState .ready).client.mapping.localClientNo := by rw [hset.mapping]
    dsimp only
    rw [hnumber]
    refine ite_rel (by rw [hfired]) (fun _ ↦ hset) fun _ ↦ ?_
    exact (hset.withClient (fun c ↦ { c with readyFired := true }) (fun _ _ ↦ rfl)
      hset.labelled).emit _
  | false =>
    have hset := h₁.setState .synchronizing
    dsimp only
    rw [h₁.state]
    split
    · exact hset.withClient (fun c ↦ { c with readyFired := false }) (fun _ _ ↦ rfl) hset.labelled
    · exact h₁

/-! ### Outbound messages -/

theorem enqueueHello (h : Alike k b s s') : Alike k b s.enqueueHello s'.enqueueHello := by
  have hhello : s'.client.helloMessage = s.client.helloMessage :=
    h.field NetSyncClient.helloMessage fun _ _ ↦ rfl
  obtain ⟨ok, w, w', heq, heq', hw⟩ :=
    (h.shared.tryEnqueueControl s.client.helloMessage).exists_eq
  rw [Session.enqueueHello, Session.enqueueHello, hhello, heq, heq']
  cases ok with
  | true =>
    exact (h.withClient (fun c ↦ { c with helloEnqueued := true }) (fun _ _ ↦ rfl)
      h.labelled).withShared hw
  | false => exact h.withShared hw

theorem greet (h : Alike k b s s') (now : D) : Alike k b (s.greet now) (s'.greet now) := by
  have hflag := h.field (·.helloEnqueued) fun _ _ ↦ rfl
  have hcond : (s'.client.state = .connected ∧ s'.client.helloEnqueued = false) ↔
      (s.client.state = .connected ∧ s.client.helloEnqueued = false) := by
    rw [h.state, hflag]
  have hclock := h.withClient
    (fun c ↦ { c with networkVariables := c.networkVariables.onConnectionEstablished now })
    (fun _ _ ↦ rfl) h.labelled
  have hhello := hclock.enqueueHello
  have hsaid := hhello.field (·.helloEnqueued) fun _ _ ↦ rfl
  rw [Session.greet, Session.greet]
  refine ite_rel hcond (fun _ ↦ ?_) fun _ ↦ h
  exact ite_rel (by rw [hsaid]) (fun _ ↦ hhello.setState .synchronizing) fun _ ↦ hhello

theorem tickVariables (h : Alike k b s s') (now : D) :
    Alike k b (s.tickVariables now) (s'.tickVariables now) := by
  obtain ⟨ok, r, r', heq, heq', hr⟩ := (NetworkVariableManager.tick_alike
    (Shared.callbacks_respect k b) now s.client.networkVariables h.shared).exists_eq
  obtain ⟨m, w, w', rfl, rfl, hw⟩ := hr.exists_eq
  rw [← h.networkVariables] at heq'
  rw [Session.tickVariables, Session.tickVariables, heq, heq']
  exact h.withNetworkVariables m hw

theorem checkInitialSyncTimeout (h : Alike k b s s') (now : D) :
    Alike k b (s.checkInitialSyncTimeout now) (s'.checkInitialSyncTimeout now) := by
  obtain ⟨ok, r, r', heq, heq', hr⟩ := (NetworkVariableManager.checkInitialSyncTimeout_alike
    (Shared.callbacks_respect k b) now s.client.networkVariables h.shared).exists_eq
  obtain ⟨m, w, w', rfl, rfl, hw⟩ := hr.exists_eq
  rw [← h.networkVariables] at heq'
  rw [Session.checkInitialSyncTimeout, Session.checkInitialSyncTimeout, heq, heq']
  exact h.withNetworkVariables m hw

theorem tickObjects (h : Alike k b s s') (now : D) :
    Alike k b (s.tickObjects now) (s'.tickObjects now) := by
  have hlabelled := ObjectSyncManager.labelled_tick h.labelled Shared.setLatestObjectTransform now
    s.client.config.transformSendRate s.shared
  have hsend (objectId : UInt32) (payload : Bytes) (w w' : Shared D) (hw : Shared.Alike k b w w') :
      Shared.Alike k b (w.setLatestObjectTransform objectId payload)
        (w'.setLatestObjectTransform objectId payload) :=
    hw.setLatestObjectTransform objectId payload
  obtain ⟨objects, w, w', heq, heq', hw⟩ := (ObjectSyncManager.tick_alike hsend now
    s.client.config.transformSendRate s.client.objects h.shared).exists_eq
  rw [heq] at hlabelled
  rw [← h.objects, ← h.config] at heq'
  rw [Session.tickObjects, Session.tickObjects, heq, heq']
  exact (h.withClient (fun c ↦ { c with objects := objects }) (fun _ _ ↦ rfl)
    hlabelled).withShared hw

end Alike

namespace Alike

variable [DoubleTrig D] {k : TransportCounters} {b : Prop} {s s' : Session D}

theorem processRoomPose (h : Alike k b s s') (payload : Bytes) :
    Alike k b (s.processRoomPose payload) (s'.processRoomPose payload) := by
  rw [Session.processRoomPose, Session.processRoomPose]
  split
  · exact h.pushLog _
  · rw [h.config]
    split
    · exact h
    · exact h.applyRoomPose _

/-- The pose that is due, and the client after it was sent or not. -/
theorem sendLocalPoseIfDue (h : Alike k b s s') (now : D) :
    Alike k b (s.sendLocalPoseIfDue now) (s'.sendLocalPoseIfDue now) := by
  obtain ⟨connected, w, w', heq, heq', hw⟩ := h.shared.isConnected.exists_eq
  rw [Session.sendLocalPoseIfDue, Session.sendLocalPoseIfDue, heq, heq']
  cases connected with
  | false => exact h.withShared hw
  | true =>
    have hlooked := h.withShared hw
    have hpose : outgoingPose s'.client = outgoingPose s.client :=
      h.field outgoingPose fun _ _ ↦ rfl
    dsimp only
    rw [hpose]
    rcases outgoingPose s.client with - | body
    · exact hlooked
    dsimp only
    have hearly := h.field (fun c ↦ Double.lt (now - c.lastPoseSendTime)
      (Double.lit 1 / Double.max (Double.lit (1 / 2)) c.config.transformSendRate)) fun _ _ ↦ rfl
    have hsame := h.field (fun c ↦ decide (c.lastPoseSignature = some (poseSignature body)) &&
      Double.lt (now - c.lastPoseChangeSendTime) kPoseHeartbeatSeconds) fun _ _ ↦ rfl
    have hpayload := h.field (fun c ↦ serializeClientPose
      { deviceId := c.config.deviceId, body := { body with poseSeq := c.localPoseSeq + 1 } })
      fun _ _ ↦ rfl
    refine ite_rel (by rw [hearly]) (fun _ ↦ hlooked) fun _ ↦ ?_
    refine ite_rel (by rw [hsame]) (fun _ ↦ ?_) fun _ ↦ ?_
    · exact hlooked.withClient (fun c ↦ { c with lastPoseSendTime := now }) (fun _ _ ↦ rfl)
        h.labelled
    · rw [hpayload]
      exact (hlooked.withClient
        (fun c ↦ { c with
          localPoseSeq := c.localPoseSeq + 1
          lastPoseSendTime := now
          lastPoseChangeSendTime := now
          lastPoseSignature := some (poseSignature body) }) (fun _ _ ↦ rfl)
        h.labelled).withShared (hw.setLatestTransform _)

theorem processMail (h : Alike k b s s') (decode : Bytes → Option (List Bytes))
    (mail : Shared.Mail) : Alike k b (s.processMail decode mail) (s'.processMail decode mail) := by
  have hpose : Alike k b (mail.roomPose.elim s s.processRoomPose)
      (mail.roomPose.elim s' s'.processRoomPose) := by
    cases mail.roomPose with
    | none => exact h
    | some payload => exact h.processRoomPose payload
  have hcontrol : Alike k b
      (mail.control.foldl (Session.processControlPayload decode)
        (mail.roomPose.elim s s.processRoomPose))
      (mail.control.foldl (Session.processControlPayload decode)
        (mail.roomPose.elim s' s'.processRoomPose)) :=
    List.foldl_rel hpose fun payload _ _ _ hs ↦ hs.processControlPayload decode payload
  rw [Session.processMail, Session.processMail]
  obtain ⟨control, roomPose, roomObjects⟩ := mail
  cases roomObjects with
  | none => cases roomPose <;> exact hcontrol
  | some payload => cases roomPose <;> exact hcontrol.processRoomObjects payload

theorem drainInbox (h : Alike k b s s') (decode : Bytes → Option (List Bytes)) :
    Alike k b (s.drainInbox decode) (s'.drainInbox decode) := by
  obtain ⟨mail, w, w', heq, heq', hw⟩ := h.shared.takeMail.exists_eq
  rw [Session.drainInbox, Session.drainInbox, heq, heq']
  exact (h.withShared hw).processMail decode mail

/-! ### Calls of the host -/

theorem setGlobalVariable (h : Alike k b s s') (name value : Bytes) :
    Replies (Alike k b) (s.setGlobalVariable name value) (s'.setGlobalVariable name value) := by
  obtain ⟨now, w₁, w₁', hclock, hclock', hw₁⟩ := h.shared.monotonicSeconds.exists_eq
  obtain ⟨ok, r, r', heq, heq', hr⟩ := (NetworkVariableManager.setGlobal_alike
    (Shared.callbacks_respect k b) now name value s.client.networkVariables hw₁).exists_eq
  obtain ⟨m, w, w', rfl, rfl, hw⟩ := hr.exists_eq
  rw [← h.networkVariables] at heq'
  rw [Session.setGlobalVariable, Session.setGlobalVariable, hclock, hclock']
  dsimp only
  rw [heq, heq']
  exact Replies.mk (h.withNetworkVariables m hw)

theorem setClientVariableFor (h : Alike k b s s') (target : ℤ) (name value : Bytes) :
    Replies (Alike k b) (s.setClientVariableFor target name value)
      (s'.setClientVariableFor target name value) := by
  obtain ⟨now, w₁, w₁', hclock, hclock', hw₁⟩ := h.shared.monotonicSeconds.exists_eq
  obtain ⟨ok, r, r', heq, heq', hr⟩ := (NetworkVariableManager.setClient_alike
    (Shared.callbacks_respect k b) now target name value s.client.networkVariables hw₁).exists_eq
  obtain ⟨m, w, w', rfl, rfl, hw⟩ := hr.exists_eq
  rw [← h.networkVariables] at heq'
  rw [Session.setClientVariableFor, Session.setClientVariableFor, hclock, hclock']
  dsimp only
  rw [heq, heq']
  exact Replies.mk (h.withNetworkVariables m hw)

theorem clearMyClientVariables (h : Alike k b s s') :
    Replies (Alike k b) s.clearMyClientVariables s'.clearMyClientVariables := by
  obtain ⟨ok, r, r', heq, heq', hr⟩ := (NetworkVariableManager.clearMyClientVariables_alike
    (Shared.callbacks_respect k b) s.client.networkVariables h.shared).exists_eq
  obtain ⟨changes, q, q', rfl, rfl, hq⟩ := hr.exists_eq
  obtain ⟨m, w, w', rfl, rfl, hw⟩ := hq.exists_eq
  rw [← h.networkVariables] at heq'
  rw [Session.clearMyClientVariables, Session.clearMyClientVariables, heq, heq']
  exact Replies.mk (h.withNetworkVariables m hw)

theorem sendOwnershipRequest (h : Alike k b s s') (objectId : UInt32)
    (operation : OwnershipOperation) :
    Alike k b
      { s with shared :=
        (s.client.objects.sendOwnershipRequest Shared.callbacks objectId operation s.shared).2 }
      { s' with shared :=
        (s'.client.objects.sendOwnershipRequest Shared.callbacks objectId operation
          s'.shared).2 } := by
  rw [h.objects]
  exact h.withShared (ObjectSyncManager.sendOwnershipRequest_alike (Shared.callbacks_respect k b)
    objectId operation s.client.objects h.shared).2

theorem registerObject (h : Alike k b s s') (objectId : UInt32) :
    Replies (Alike k b) (s.registerObject objectId) (s'.registerObject objectId) := by
  have hlabelled := ObjectSyncManager.labelled_registerObject h.labelled Shared.callbacks objectId
    s.shared
  obtain ⟨ok, r, r', heq, heq', hr⟩ := (ObjectSyncManager.registerObject_alike
    (Shared.callbacks_respect k b) objectId s.client.objects h.shared).exists_eq
  obtain ⟨objects, w, w', rfl, rfl, hw⟩ := hr.exists_eq
  rw [heq] at hlabelled
  rw [← h.objects] at heq'
  rw [Session.registerObject, Session.registerObject, heq, heq']
  exact Replies.mk ((h.withClient (fun c ↦ { c with objects := objects }) (fun _ _ ↦ rfl)
    hlabelled).withShared hw)

variable [DoubleText D]

theorem flushRpc (h : Alike k b s s') (now : D) :
    Alike k b (s.flushRpc now) (s'.flushRpc now) := by
  obtain ⟨ready, s₁, s₁', heq, heq', h₁⟩ := h.isReady.exists_eq
  have hnumber : s₁'.client.mapping.localClientNo = s₁.client.mapping.localClientNo := by
    rw [h₁.mapping]
  have hdevice : s₁'.client.config.deviceId = s₁.client.config.deviceId := by rw [h₁.config]
  obtain ⟨ok, r, r', hflush, hflush', hr⟩ := (h₁.rpcManager.flushPending
    (Shared.callbacks_respect k b) h₁.shared now ready s₁.client.mapping.localClientNo
    s₁.client.config.deviceId).exists_eq
  rw [Session.flushRpc, Session.flushRpc, heq, heq']
  dsimp only
  rw [hnumber, hdevice, hflush, hflush']
  exact h₁.withRpcManager hr

theorem flush (h : Alike k b s s') (now : D) : Alike k b (s.flush now) (s'.flush now) :=
  ((((h.tickVariables now).flushRpc now).sendLocalPoseIfDue now).tickObjects
    now).checkInitialSyncTimeout now

omit [DoubleTrig D] [DoubleText D] in
/-- What a poll returns, and the session after it. -/
theorem polled (h : Alike k b s s') :
    (s'.events, s').1.filter Event.matters = (s.events, s).1.filter Event.matters ∧
      Alike k b (s.events, s).2 (s'.events, s').2 :=
  ⟨h.events, h⟩

/-- **A poll** returns the same events on both sides, but for the log. -/
theorem poll (h : Alike k b s s') (decode : Bytes → Option (List Bytes)) (now : D) :
    (s'.poll decode now).1.filter Event.matters = (s.poll decode now).1.filter Event.matters ∧
      Alike k b (s.poll decode now).2 (s'.poll decode now).2 := by
  rw [Session.poll, Session.poll, h.state]
  split
  · exact ⟨rfl, h⟩
  · have hstart : Alike k b { s with events := [] } { s' with events := [] } :=
      { h with events := rfl }
    have hpolled :=
      (((hstart.drainInternalEvents.greet now).drainInbox decode).flush now).updateReady
    exact polled hpolled

theorem rpcToMany (h : Alike k b s s') (targets : List ℤ) (functionName : Bytes)
    (args : List Bytes) :
    Alike k b (s.rpcToMany targets functionName args) (s'.rpcToMany targets functionName args) := by
  obtain ⟨now, w₁, w₁', hclock, hclock', hw₁⟩ := h.shared.monotonicSeconds.exists_eq
  obtain ⟨ready, s₁, s₁', heq, heq', h₁⟩ := (h.withShared hw₁).isReady.exists_eq
  have hnumber : s₁'.client.mapping.localClientNo = s₁.client.mapping.localClientNo := by
    rw [h₁.mapping]
  have hdevice : s₁'.client.config.deviceId = s₁.client.config.deviceId := by rw [h₁.config]
  have hsend := h₁.rpcManager.send (Shared.callbacks_respect k b) h₁.shared now ready
    s₁.client.mapping.localClientNo s₁.client.config.deviceId targets functionName args
  rw [Session.rpcToMany, Session.rpcToMany, hclock, hclock']
  dsimp only
  rw [heq, heq']
  dsimp only
  rw [hnumber, hdevice]
  exact h₁.withRpcManager hsend

/-- **Every call of the host.** -/
theorem perform (h : Alike k b s s') (decode : Bytes → Option (List Bytes)) (call : HostCall D) :
    Alike k b (s.perform decode call) (s'.perform decode call) := by
  cases call with
  | poll now =>
    rw [Session.perform, Session.perform]
    exact (h.poll decode now).2
  | setGlobalVariable name value => exact (h.setGlobalVariable name value).2
  | setClientVariable name value =>
    rw [Session.perform, Session.perform, Session.setClientVariable, Session.setClientVariable,
      h.mapping]
    exact (h.setClientVariableFor _ name value).2
  | setClientVariableFor target name value => exact (h.setClientVariableFor target name value).2
  | clearMyClientVariables => exact h.clearMyClientVariables.2
  | requestObjectOwnership objectId => exact h.sendOwnershipRequest objectId .request
  | releaseObjectOwnership objectId => exact h.sendOwnershipRequest objectId .release
  | rpc functionName args => exact h.rpcToMany [] functionName args
  | rpcTo target functionName args => exact h.rpcToMany [target] functionName args
  | rpcToMany targets functionName args => exact h.rpcToMany targets functionName args
  | configureRpcRateLimit rpcLimit windowSeconds warnCooldown =>
    have hr := h.rpcManager
    exact h.withRpcManager ⟨⟨hr.rateHits, rfl, rfl, rfl, hr.pending, hr.lastWarnAt⟩, h.shared⟩
  | setTransformSendRate rate =>
    exact h.withClient
      (fun c ↦ { c with config := { c.config with transformSendRate := clampSendRate rate } })
      (fun _ _ ↦ rfl) h.labelled
  | setLocalPose body =>
    exact h.withClient (fun c ↦ { c with localPose := some body }) (fun _ _ ↦ rfl) h.labelled
  | clearLocalPose =>
    exact h.withClient (fun c ↦ { c with localPose := none, lastPoseSignature := none })
      (fun _ _ ↦ rfl) h.labelled
  | registerObject objectId => exact (h.registerObject objectId).2
  | unregisterObject objectId =>
    exact h.withClient (fun c ↦ { c with objects := c.objects.unregisterObject objectId })
      (fun _ _ ↦ rfl) (h.labelled.erase objectId)
  | submitObjectPose objectId pose =>
    exact h.withClient (fun c ↦ { c with objects := c.objects.submitLocalPose objectId pose })
      (fun _ _ ↦ rfl) (ObjectSyncManager.labelled_submitLocalPose h.labelled objectId pose)

/-- **Every step of a session.** -/
theorem step (h : Alike k b s s') (decode : Bytes → Option (List Bytes)) {e : SessionStep D}
    (hquiet : b ∨ e.schedule = []) : Alike k b (s.step decode e) (s'.step decode e) := by
  cases e with
  | network n => exact h.withShared (h.shared.step n)
  | call call schedule =>
    exact (h.withShared (h.shared.withSchedule hquiet)).perform decode call

/-! ### From one session to the next -/

omit [DoubleText D] in
theorem resetSessionState (h : Alike k b s s') :
    Alike k b s.resetSessionState s'.resetSessionState := by
  have hr := h.rpcManager
  refine ⟨?_, ⟨rfl, hr.rpcLimit, hr.windowSeconds, hr.warnCooldown, rfl, hr.lastWarnAt⟩,
    h.shared.clearInbox, h.events, ObjectSyncManager.labelled_clearRoomScopedState h.labelled⟩
  show s'.client.resetSession =
    s.client.resetSession.withRpcManager s'.client.resetSession.rpcManager
  rw [h.client]
  rfl

omit [DoubleText D] in
theorem disconnect (h : Alike k b s s') : Alike k b s.disconnect s'.disconnect := by
  have hstopped := h.withShared h.shared.stopDiscovery.stopTransport
  have hreset := hstopped.resetSessionState
  exact hreset.withClient (fun c ↦ { c with state := .disconnected }) (fun _ _ ↦ rfl)
    hreset.labelled

omit [DoubleText D] in
theorem beginSession (h : Alike k b s s') (config : ClientConfig D) :
    Alike k b (s.beginSession config) (s'.beginSession config) := by
  have hstopped := h.withShared h.shared.stopDiscovery.stopTransport
  have hconfigured := hstopped.withClient
    (fun c ↦ { c with
      config :=
        { config with
          transformSendRate := clampSendRate config.transformSendRate
          roomId := if config.roomId.isEmpty then kDefaultRoom else config.roomId } })
    (fun _ _ ↦ rfl) h.labelled
  have hreset := hconfigured.resetSessionState
  exact hreset.withClient (fun c ↦ { c.resetIdentity with state := .connecting }) (fun _ _ ↦ rfl)
    hreset.labelled

omit [DoubleText D] in
theorem seekServer (h : Alike k b s s') (config : ClientConfig D) :
    Replies (Alike k b) (s.seekServer config) (s'.seekServer config) := by
  have hfailed {s s' : Session D} (h : Alike k b s s') (line : String) :
      Alike k b ({ s with client := { s.client with state := .error } }.pushLog line)
        ({ s' with client := { s'.client with state := .error } }.pushLog line) :=
    (h.withClient (fun c ↦ { c with state := .error }) (fun _ _ ↦ rfl) h.labelled).pushLog line
  rw [Session.seekServer, Session.seekServer]
  split
  · refine Replies.mk (Alike.startTransport ?_)
    exact h.withClient (fun c ↦ { c with resolvedAddress := config.serverAddress })
      (fun _ _ ↦ rfl) h.labelled
  split
  · exact Replies.mk (hfailed h _)
  · obtain ⟨ok, w, w', heq, heq', hw⟩ := h.shared.startDiscovery.exists_eq
    rw [heq, heq']
    cases ok with
    | true => exact Replies.mk (h.withShared hw)
    | false => exact Replies.mk (hfailed (h.withShared hw) _)

omit [DoubleText D] in
theorem connect (h : Alike k b s s') (config : ClientConfig D) :
    Replies (Alike k b) (s.connect config) (s'.connect config) := by
  rw [connect_eq, connect_eq, h.state]
  split
  · exact Replies.mk h
  · exact (h.beginSession config).seekServer config

/-- **Every step of a life.** -/
theorem live (h : Alike k b s s') (decode : Bytes → Option (List Bytes)) {e : LifeStep D}
    (hquiet : b ∨ e.schedule = []) : Alike k b (s.live decode e) (s'.live decode e) := by
  cases e with
  | connect config schedule =>
    exact ((h.withShared (h.shared.withSchedule hquiet)).connect config).2
  | disconnect schedule => exact (h.withShared (h.shared.withSchedule hquiet)).disconnect
  | session e => exact h.step decode hquiet

end Alike

end Session

end StylyNetSync
