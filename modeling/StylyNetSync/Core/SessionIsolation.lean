import StylyNetSync.Core.AlikeSession
import StylyNetSync.Core.PollParts

/-!
# From one session to the next

After `disconnect` a client can be connected again. `freshlyBuilt` is a client that never was, with
the same objects and the same rate limit. The two are given the same steps, and after each of them
the host looks at what it was told, at every getter, and at what the transport holds.

They look the same if the old client has not marked the new session. It may in three ways: a server
address of before is shown while a new server is looked for; an object keeps the pose that it was
last told, or that the host last submitted for it; and the statistics of the transport go on. The
first two must not be, and the third is a matter of adding: the new client, credited with the
statistics of the old one, looks the same.

The network thread counts more than what it does to the control outbox: what it receives, and what
it sends of poses. Nothing reads these counts but `transport_stats()`, so they come as a tally
beside each step.
-/

namespace StylyNetSync

variable {D : Type}

/-! ### Clients with their statistics -/

/-- What the network thread counts during a step, but for what the control outbox goes through. -/
structure NetworkTally where
  droppedTransformFrames : ℕ := 0
  wouldBlockCount : ℕ := 0
  messagesSent : ℕ := 0
  messagesReceived : ℕ := 0
  deriving DecidableEq

def NetworkTally.add (a b : NetworkTally) : NetworkTally where
  droppedTransformFrames := a.droppedTransformFrames + b.droppedTransformFrames
  wouldBlockCount := a.wouldBlockCount + b.wouldBlockCount
  messagesSent := a.messagesSent + b.messagesSent
  messagesReceived := a.messagesReceived + b.messagesReceived

structure TransportStats where
  droppedTransformFrames : ℕ := 0
  wouldBlockCount : ℕ := 0
  controlDroppedFull : ℕ := 0
  controlDroppedExpired : ℕ := 0
  messagesSent : ℕ := 0
  messagesReceived : ℕ := 0
  controlQueueLength : ℕ := 0
  deriving DecidableEq

/-- The statistics of one who is credited with some from the start. -/
def TransportStats.credit (k stats : TransportStats) : TransportStats where
  droppedTransformFrames := stats.droppedTransformFrames + k.droppedTransformFrames
  wouldBlockCount := stats.wouldBlockCount + k.wouldBlockCount
  controlDroppedFull := stats.controlDroppedFull + k.controlDroppedFull
  controlDroppedExpired := stats.controlDroppedExpired + k.controlDroppedExpired
  messagesSent := stats.messagesSent + k.messagesSent
  messagesReceived := stats.messagesReceived + k.messagesReceived
  controlQueueLength := stats.controlQueueLength + k.controlQueueLength

structure CountedSession (D : Type) where
  session : Session D
  tally : NetworkTally := {}

/-- A step of a life, and what the network thread counts in it. -/
abbrev CountedStep (D : Type) := NetworkTally × LifeStep D

namespace CountedSession

/-- `transport_stats()`. -/
def transportStats (c : CountedSession D) : TransportStats where
  droppedTransformFrames := c.tally.droppedTransformFrames
  wouldBlockCount := c.session.shared.transport.wouldBlockCount + c.tally.wouldBlockCount
  controlDroppedFull := c.session.shared.transport.controlDroppedFull
  controlDroppedExpired := c.session.shared.transport.controlDroppedExpired
  messagesSent := c.session.shared.transport.messagesSent + c.tally.messagesSent
  messagesReceived := c.tally.messagesReceived
  controlQueueLength := c.session.shared.transport.controlOutbox.length

def live [DoubleTrig D] [DoubleText D] (decode : Bytes → Option (List Bytes))
    (c : CountedSession D) (e : CountedStep D) : CountedSession D :=
  ⟨c.session.live decode e.2, c.tally.add e.1⟩

end CountedSession

/-! ### What the host sees -/

/-- The getters of a client that do not ask the transport. -/
structure ClientView (D : Type) where
  state : ConnectionState
  hasHandshake : Bool
  hasNetworkVariableSync : Bool
  clientNo : ℤ
  /-- With `device_id()`, `room_id()` and `transform_send_rate()`. -/
  config : ClientConfig D
  serverAddress : Bytes
  discoveredRestApiPort : ℤ
  getRemotePose : ℤ → Option (RemoteClientPose D)
  remoteClientNumbers : List ℤ
  lastRoomBroadcastTime : UInt64
  deviceIdFor : ℤ → Bytes
  clientNoFor : Bytes → ℤ
  isClientStealth : ℤ → Bool
  knownClientNumbers : List ℤ
  getGlobalVariable : Bytes → Option Bytes
  getAllGlobalVariables : Variables
  getClientVariable : ℤ → Bytes → Option Bytes
  getAllClientVariables : ℤ → Variables
  getObjectState : UInt32 → Option (ObjectState D)

def NetSyncClient.view (c : NetSyncClient D) : ClientView D where
  state := c.state
  hasHandshake := c.hasHandshake
  hasNetworkVariableSync := c.networkVariables.hasReceivedInitialSync
  clientNo := c.clientNo
  config := c.config
  serverAddress := c.resolvedAddress
  discoveredRestApiPort := c.discoveredRestApiPort
  getRemotePose clientNo := c.getRemotePose clientNo
  remoteClientNumbers := c.remoteClientNumbers
  lastRoomBroadcastTime := c.lastRoomBroadcastTime
  deviceIdFor clientNo := c.mapping.deviceIdFor clientNo
  clientNoFor deviceId := c.mapping.clientNoFor deviceId
  isClientStealth clientNo := c.mapping.isStealth clientNo
  knownClientNumbers := c.mapping.knownClientNumbers
  getGlobalVariable name := c.networkVariables.getGlobal name
  getAllGlobalVariables := c.networkVariables.globals
  getClientVariable clientNo name := c.networkVariables.getClient clientNo name
  getAllClientVariables clientNo := c.networkVariables.allClientVariables clientNo
  getObjectState objectId := c.objects.getState objectId

/-- All getters, and what was handed to the transport: the control messages since it was last
stopped, and the poses that wait. -/
structure SessionView (D : Type) where
  client : ClientView D
  isConnected : Bool
  isReady : Bool
  transportStats : TransportStats
  control : List (OutboundPacket ControlMessage D)
  latestTransform : Option (OutboundPacket Bytes D)
  latestObjectTransforms : OrderedMap UInt32 (OutboundPacket Bytes D)

/-- The session between two calls: no other thread comes in while the host looks. -/
def Session.atRest (s : Session D) : Session D :=
  { s with shared := { s.shared with schedule := [] } }

namespace CountedSession

section Look

variable [DoubleTrig D] [DoubleText D]

/-- What there is to see, with some statistics credited. -/
def view (k : TransportStats) (c : CountedSession D) : SessionView D where
  client := c.session.client.view
  isConnected := c.session.atRest.shared.isConnected.1
  isReady := c.session.atRest.isReady.1
  transportStats := k.credit c.transportStats
  control := c.session.shared.transport.ledger.entries
  latestTransform := c.session.shared.transport.latestTransform
  latestObjectTransforms := c.session.shared.transport.latestObjectTransforms

/-- The events that a step returns, but for the log. -/
def reported (decode : Bytes → Option (List Bytes)) (c : CountedSession D) :
    CountedStep D → List Event
  | (_, .session e) => (c.session.returned decode e).filter Event.matters
  | _ => []

/-- What a step brings to light. -/
def look (decode : Bytes → Option (List Bytes)) (k : TransportStats) (c : CountedSession D)
    (e : CountedStep D) : List Event × SessionView D :=
  (c.reported decode e, (c.live decode e).view k)

end Look

end CountedSession

/-! ### The client to compare with -/

/-- The record of an object that was just registered. -/
def ObjectEntry.registered [Double D] (objectId : UInt32) : ObjectEntry D :=
  { ObjectEntry.default with state := { ObjectEntry.default.state with objectId := objectId } }

/-- No pose was told of the object, and none is to be sent. -/
structure ObjectEntry.Poseless [Double D] (entry : ObjectEntry D) : Prop where
  pose : entry.state.pose = PoseTransform.default
  localPose : entry.localPose = none

/-- A newly constructed client with the same objects and the same rate limit, at the same time and
on the same machine. -/
def Session.freshlyBuilt [Double D] (s : Session D) : Session D where
  client :=
    { NetSyncClient.new with
      rpcManager :=
        { RpcManager.default with
          rpcLimit := s.client.rpcManager.rpcLimit
          windowSeconds := s.client.rpcManager.windowSeconds
          warnCooldown := s.client.rpcManager.warnCooldown }
      objects :=
        { objects := s.client.objects.objects.map fun objectId _ ↦ .registered objectId } }
  shared := { clock := s.shared.clock, contextError := s.shared.contextError }

theorem Session.get?_freshlyBuilt [Double D] (s : Session D) (objectId : UInt32) :
    s.freshlyBuilt.client.objects.objects[objectId]? =
      s.client.objects.objects[objectId]?.map fun _ ↦ .registered objectId := by
  rw [freshlyBuilt, Std.ExtTreeMap.getElem?_map]

namespace CountedSession

def freshlyBuilt [Double D] (c : CountedSession D) : CountedSession D :=
  ⟨c.session.freshlyBuilt, {}⟩

variable [DoubleTrig D] [DoubleText D]

/-- A client after any life that ends with `disconnect`. The other threads can come in twice before
they are stopped, and the host has the events of the last poll. -/
def ended (decode : Bytes → Option (List Bytes)) (clock : D) (history : List (CountedStep D))
    (tally : NetworkTally) (before during : List (NetworkStep D)) : CountedSession D :=
  let c := history.foldl (live decode) ⟨Session.new clock, {}⟩
  let c := c.live decode (tally, .disconnect [before, during])
  { c with session := { c.session with events := [] } }

/-- No warning of the rate limit was ever written, or the other threads do not come in during calls:
a line that is written on one side only gives them one occasion more. -/
def Comparable (c : CountedSession D) (steps : List (CountedStep D)) : Prop :=
  c.session.client.rpcManager.lastWarnAt = (RpcManager.default : RpcManager D).lastWarnAt ∨
    ∀ e ∈ steps, e.2.schedule = []

/-- **The next session is isolated**: whatever happens in it and after it, the client looks the same
as one that is freshly built and credited with `k`. -/
def Isolated (decode : Bytes → Option (List Bytes)) (k : TransportStats) (config : ClientConfig D)
    (c : CountedSession D) : Prop :=
  ∀ (tally : NetworkTally) (schedule : List (List (NetworkStep D))) (steps : List (CountedStep D)),
    let session := (tally, LifeStep.connect config schedule) :: steps
    c.Comparable session →
      trace (live decode) (look decode {}) c session =
        trace (live decode) (look decode k) c.freshlyBuilt session

end CountedSession

/-! ### After `disconnect` -/

namespace Shared

variable [Double D]

/-- The other threads do not touch the schedule, and do not start or stop the discovery. -/
theorem step_schedule (w : Shared D) (n : NetworkStep D) :
    (w.step n).schedule = w.schedule ∧ (w.step n).discovering = w.discovering := by
  cases n with
  | drainStep result reason =>
    rw [step]
    rcases w.transport.drainStep result with ⟨outcome, t⟩
    cases outcome <;> exact ⟨rfl, rfl⟩
  | _ => exact ⟨rfl, rfl⟩

theorem yield_schedule {w : Shared D} {steps : List (NetworkStep D)}
    {rest : List (List (NetworkStep D))} (h : w.schedule = steps :: rest) :
    w.yield.schedule = rest ∧ w.yield.discovering = w.discovering := by
  rw [yield, h]
  refine List.foldlRecOn
    (motive := fun w' : Shared D ↦ w'.schedule = rest ∧ w'.discovering = w.discovering)
    steps step ⟨rfl, rfl⟩ ?_
  intro w' hw' n _
  obtain ⟨hschedule, hdiscovering⟩ := step_schedule w' n
  exact ⟨hschedule.trans hw'.1, hdiscovering.trans hw'.2⟩

end Shared

namespace Session

/-- Nothing is left that a new session takes over, but for what `NetSyncClient` keeps. -/
structure Ended (s : Session D) : Prop where
  state : s.client.state = .disconnected
  running : s.shared.transport.running = false
  holdless : s.shared.transport.Holdless
  draining : s.shared.transport.draining = none
  ledger : s.shared.transport.ledger = {}
  control : s.shared.inbox.control = []
  roomPose : s.shared.inbox.latestRoomPose = none
  roomObjects : s.shared.inbox.latestRoomObjects = none
  notifications : s.shared.inbox.notifications = []
  discovering : s.shared.discovering = false
  labelled : ObjectSyncManager.Labelled s.client.objects.objects

section Disconnect

variable [DoubleTrig D] {s : Session D}

/-- **What `disconnect` leaves**, if the other threads do not come in after they were stopped. That
the transport holds nothing is what two runs of the past would agree on. -/
theorem ended_disconnect {k : TransportCounters} {b : Prop} {s' : Session D} (h : Alike k b s s')
    {before during : List (NetworkStep D)} (hschedule : s.shared.schedule = [before, during]) :
    Ended s.disconnect := by
  have hdone := h.disconnect
  obtain ⟨hafter, -⟩ := Shared.yield_schedule hschedule
  obtain ⟨hquiet, hdiscovering⟩ := Shared.yield_schedule (w := s.shared.stopDiscovery) hafter
  have hshared : s.disconnect.shared = s.shared.stopDiscovery.stopTransport.clearInbox := rfl
  rw [Shared.clearInbox, Shared.Alike.yield_of_quiet (w := s.shared.stopDiscovery.stopTransport)
    hquiet] at hshared
  have hrunning : s.disconnect.shared.transport.running = false := by
    rw [hshared]
    rfl
  refine ⟨rfl, hrunning, hdone.shared.transport.idle hrunning, ?_, ?_, ?_, ?_, ?_, ?_, ?_,
    hdone.labelled⟩
  all_goals rw [hshared]
  · rfl
  · rfl
  · exact hdiscovering

theorem ended_freshlyBuilt (s : Session D) : Ended s.freshlyBuilt := by
  refine ⟨rfl, rfl, ⟨rfl, rfl, rfl, rfl⟩, rfl, rfl, rfl, rfl, rfl, rfl, rfl, ?_⟩
  intro objectId entry hget
  rw [get?_freshlyBuilt] at hget
  obtain ⟨-, -, rfl⟩ := Option.map_eq_some_iff.mp hget
  rfl

end Disconnect

/-! ### The next session -/

/-- The past has left no mark: no server address that will be shown while a server is looked for,
and no pose with an object. -/
structure Unmarked [Double D] (config : ClientConfig D) (s : Session D) : Prop where
  address : config.serverAddress = [] → s.client.resolvedAddress = []
  objects : ∀ (objectId : UInt32) (entry : ObjectEntry D),
    s.client.objects.objects[objectId]? = some entry → entry.Poseless

namespace Ended

variable [DoubleTrig D] {s : Session D}

theorem shared_alike (h : Ended s) {b : Prop} {schedule : List (List (NetworkStep D))}
    (hquiet : b ∨ schedule = []) :
    Shared.Alike s.shared.transport.counters b { s.shared with schedule := schedule }
      { s.freshlyBuilt.shared with schedule := schedule } := by
  have hcounters : s.shared.transport.counters =
      s.shared.transport.counters.ahead s.freshlyBuilt.shared.transport.counters := by
    simp [TransportCounters.ahead, ZmqTransport.counters, freshlyBuilt]
  have htransport : ZmqTransport.Alike s.shared.transport.counters s.shared.transport
      s.freshlyBuilt.shared.transport :=
    ⟨h.running.symm, fun hrunning ↦ Bool.noConfusion (hrunning.symm.trans h.running),
      h.holdless.1.symm, h.holdless.2.symm, h.holdless.3.symm, h.holdless.4.symm,
      h.draining.symm, h.ledger.symm, hcounters, fun _ ↦ h.holdless⟩
  exact ⟨htransport, h.control.symm, h.roomPose.symm, h.roomObjects.symm,
    congrArg (List.filter _) h.notifications.symm, rfl, rfl, h.discovering.symm, rfl, hquiet⟩

/-- What `clearRoomScopedState` leaves of an object that has no pose is what registering gives. -/
theorem objects_eq (h : Ended s)
    (hposeless : ∀ (objectId : UInt32) (entry : ObjectEntry D),
      s.client.objects.objects[objectId]? = some entry → entry.Poseless) :
    s.freshlyBuilt.client.objects.clearRoomScopedState.objects =
      s.client.objects.clearRoomScopedState.objects := by
  refine Std.ExtTreeMap.ext_getElem? fun {objectId} ↦ ?_
  rw [ObjectSyncManager.get?_clearRoomScopedState, ObjectSyncManager.get?_clearRoomScopedState,
    get?_freshlyBuilt]
  rcases hget : s.client.objects.objects[objectId]? with - | entry
  · rfl
  · have hlabel := h.labelled objectId entry hget
    obtain ⟨hpose, hlocal⟩ := hposeless objectId entry hget
    rcases entry with ⟨⟨_, _, _, _, _, _, _⟩, _, _, _, _⟩
    dsimp only at hlabel hpose hlocal
    rw [hlabel, hpose, hlocal]
    rfl

/-- The two clients at the beginning of the session. -/
theorem alike_beginSession (h : Ended s) (haddress : s.client.resolvedAddress = [])
    (hposeless : ∀ (objectId : UInt32) (entry : ObjectEntry D),
      s.client.objects.objects[objectId]? = some entry → entry.Poseless)
    (hevents : s.events = []) {b : Prop} {schedule : List (List (NetworkStep D))}
    (hquiet : b ∨ schedule = [])
    (hwarn : b → s.client.rpcManager.lastWarnAt = (RpcManager.default : RpcManager D).lastWarnAt)
    (config : ClientConfig D) :
    Alike s.shared.transport.counters b
      (({ s with shared := { s.shared with schedule := schedule } } : Session D).beginSession
        config)
      (({ s.freshlyBuilt with
        shared := { s.freshlyBuilt.shared with schedule := schedule } } : Session D).beginSession
          config) := by
  have hshared := (h.shared_alike hquiet).stopDiscovery.stopTransport.clearInbox
  refine ⟨?_, ⟨rfl, rfl, rfl, rfl, rfl, fun hb ↦ (hwarn hb).symm⟩, hshared, ?_, ?_⟩
  · let c := (({ s with shared := { s.shared with schedule := schedule } } : Session D).beginSession
      config).client
    show ({ c with
      rpcManager := s.freshlyBuilt.client.rpcManager.clearPending
      resolvedAddress := []
      objects := ⟨0, config.deviceId, s.freshlyBuilt.client.objects.clearRoomScopedState.objects⟩ }
        : NetSyncClient D) = _
    rw [h.objects_eq hposeless, ← haddress]
    rfl
  · show ([] : List Event).filter _ = s.events.filter _
    rw [hevents]
  · exact ObjectSyncManager.labelled_clearRoomScopedState h.labelled

/-- **`connect`** makes the two clients alike. -/
theorem alike_connect (h : Ended s) {config : ClientConfig D} (hunmarked : s.Unmarked config)
    (hevents : s.events = []) {b : Prop} {schedule : List (List (NetworkStep D))}
    (hquiet : b ∨ schedule = [])
    (hwarn : b → s.client.rpcManager.lastWarnAt = (RpcManager.default : RpcManager D).lastWarnAt) :
    Alike s.shared.transport.counters b
      (({ s with shared := { s.shared with schedule := schedule } } : Session D).connect config).2
      (({ s.freshlyBuilt with
        shared := { s.freshlyBuilt.shared with schedule := schedule } } : Session D).connect
          config).2 := by
  rw [connect_eq, connect_eq, if_neg fun hstate ↦ hstate.1 h.state,
    if_neg fun hstate ↦ hstate.1 rfl]
  by_cases hgiven : config.serverAddress = []
  · exact ((h.alike_beginSession (hunmarked.address hgiven) hunmarked.objects hevents hquiet hwarn
      config).seekServer config).2
  · -- the address of before is overwritten
    let forgetful : Session D := { s with client := { s.client with resolvedAddress := [] } }
    have hforgetful : Ended forgetful := { h with }
    have halike := ((hforgetful.alike_beginSession rfl hunmarked.objects hevents hquiet hwarn
      config).seekServer config).2
    rw [seekServer, seekServer, if_pos (by simpa using hgiven), if_pos (by simpa using hgiven)]
      at halike ⊢
    exact halike

end Ended

end Session

namespace CountedSession

variable [DoubleTrig D] [DoubleText D] {c c₀ c₁ c₁' : CountedSession D} {b : Prop}

/-- Two clients after the same steps of a session, where the first was `c₀` before it. -/
structure Alike (b : Prop) (c₀ c₁ c₁' : CountedSession D) : Prop where
  session : Session.Alike c₀.session.shared.transport.counters b c₁.session c₁'.session
  tally : c₁.tally = c₀.tally.add c₁'.tally

namespace Alike

theorem live (h : Alike b c₀ c₁ c₁') (decode : Bytes → Option (List Bytes)) {e : CountedStep D}
    (hquiet : b ∨ e.2.schedule = []) : Alike b c₀ (c₁.live decode e) (c₁'.live decode e) := by
  refine ⟨h.session.live decode hquiet, ?_⟩
  show c₁.tally.add e.1 = c₀.tally.add (c₁'.tally.add e.1)
  rw [h.tally]
  simp only [NetworkTally.add, Nat.add_assoc]

theorem reported (h : Alike b c₀ c₁ c₁') (decode : Bytes → Option (List Bytes)) {e : CountedStep D}
    (hquiet : b ∨ e.2.schedule = []) : c₁.reported decode e = c₁'.reported decode e := by
  obtain ⟨tally, e⟩ := e
  cases e with
  | session e =>
    cases e with
    | call call schedule =>
      cases call with
      | poll now =>
        have hstart := h.session.withShared (h.session.shared.withSchedule hquiet)
        exact (hstart.poll decode now).1.symm
      | _ => rfl
    | network n => rfl
  | _ => rfl

omit [DoubleTrig D] [DoubleText D] in
theorem transportStats (h : Alike b c₀ c₁ c₁')
    (hempty : c₀.session.shared.transport.controlOutbox = []) :
    c₁.transportStats = c₀.transportStats.credit c₁'.transportStats := by
  have hcounters := h.session.shared.transport.counters
  have htally := h.tally
  have hqueue : c₁'.session.shared.transport.controlOutbox.length =
      c₁.session.shared.transport.controlOutbox.length := by
    rw [h.session.shared.transport.controlOutbox]
  simp only [ZmqTransport.counters, TransportCounters.ahead, TransportCounters.mk.injEq]
    at hcounters
  obtain ⟨hblocked, hfull, hexpired, hsent⟩ := hcounters
  simp only [CountedSession.transportStats, TransportStats.credit, TransportStats.mk.injEq, htally,
    NetworkTally.add, hempty, List.length_nil]
  omega

omit [DoubleText D] in
/-- **They look the same** to the host, who credits the second with the statistics of `c₀`. -/
theorem view (h : Alike b c₀ c₁ c₁') (hempty : c₀.session.shared.transport.controlOutbox = []) :
    c₁.view {} = c₁'.view c₀.transportStats := by
  have hrest : Session.Alike c₀.session.shared.transport.counters b c₁.session.atRest
      c₁'.session.atRest :=
    h.session.withShared (h.session.shared.withSchedule (Or.inr rfl))
  have hclient : c₁'.session.client.view = c₁.session.client.view :=
    h.session.field NetSyncClient.view fun _ _ ↦ rfl
  have htransport := h.session.shared.transport
  rw [CountedSession.view, CountedSession.view, hclient, hrest.shared.isConnected.1,
    hrest.isReady.1, htransport.ledger, htransport.latestTransform,
    htransport.latestObjectTransforms, ← h.transportStats hempty]
  rfl

end Alike

/-- **The session runs alike on both sides**, from `connect` on. -/
theorem isolated_of_unmarked (hended : c.session.Ended) (hevents : c.session.events = [])
    (decode : Bytes → Option (List Bytes)) {config : ClientConfig D}
    (hunmarked : c.session.Unmarked config) : c.Isolated decode c.transportStats config := by
  intro tally schedule steps session hcomparable
  have hempty := hended.holdless.controlOutbox
  -- the warnings are agreed on, or the calls are not interrupted
  obtain ⟨b, hwarn, hquiet⟩ : ∃ b : Prop,
      (b →
        c.session.client.rpcManager.lastWarnAt = (RpcManager.default : RpcManager D).lastWarnAt) ∧
        ∀ e ∈ session, b ∨ e.2.schedule = [] := by
    rcases hcomparable with hnever | hatomic
    · exact ⟨True, fun _ ↦ hnever, fun _ _ ↦ Or.inl trivial⟩
    · exact ⟨False, False.elim, fun e he ↦ Or.inr (hatomic e he)⟩
  have hstart : Alike b c (c.live decode (tally, .connect config schedule))
      (c.freshlyBuilt.live decode (tally, .connect config schedule)) := by
    refine ⟨hended.alike_connect hunmarked hevents (hquiet _ List.mem_cons_self) hwarn, ?_⟩
    show c.tally.add tally = c.tally.add (NetworkTally.add {} tally)
    simp [NetworkTally.add]
  have hrest : ∀ e ∈ steps, b ∨ e.2.schedule = [] := fun e he ↦
    hquiet e (List.mem_cons_of_mem _ he)
  have hlook {c₁ c₁' : CountedSession D} (h : Alike b c c₁ c₁') {e : CountedStep D}
      (he : b ∨ e.2.schedule = []) :
      c₁.look decode {} e = c₁'.look decode c.transportStats e := by
    rw [look, look, h.reported decode he, (h.live decode he).view hempty]
  have hsteps := trace_eq_of_rel (fun c₁ c₁' e he h ↦ Alike.live h decode (hrest e he))
    (fun c₁ c₁' e he h ↦ hlook h (hrest e he)) hstart
  show look decode {} c _ :: _ = look decode c.transportStats c.freshlyBuilt _ :: _
  rw [hsteps, look, look, hstart.view hempty]
  rfl

end CountedSession

/-! ### Marks show -/

/-- No thread comes in, nothing is queued, and this much was counted. -/
structure Shared.Idles (k : TransportCounters) (w : Shared D) : Prop where
  schedule : w.schedule = []
  controlOutbox : w.transport.controlOutbox = []
  counters : w.transport.counters = k

namespace Shared.Idles

variable [Double D] {k : TransportCounters} {w : Shared D}

theorem pushLog (h : w.Idles k) (line : String) : (w.pushLog line).Idles k := by
  rw [Shared.pushLog, Alike.yield_of_quiet h.schedule]
  exact ⟨h.schedule, h.controlOutbox, h.counters⟩

theorem stopTransport (h : w.Idles k) : w.stopTransport.Idles k := by
  rw [Shared.stopTransport, Alike.yield_of_quiet h.schedule]
  refine ⟨h.schedule, ?_, ?_⟩
  · show w.transport.stop.controlOutbox = []
    rw [ZmqTransport.stop]
    split
    · rfl
    · exact h.controlOutbox
  · exact (ZmqTransport.counters_stop w.transport).trans h.counters

theorem stopDiscovery (h : w.Idles k) : w.stopDiscovery.Idles k := by
  rw [Shared.stopDiscovery, Alike.yield_of_quiet h.schedule]
  exact ⟨h.schedule, h.controlOutbox, h.counters⟩

theorem clearInbox (h : w.Idles k) : w.clearInbox.Idles k := by
  rw [Shared.clearInbox, Alike.yield_of_quiet h.schedule]
  exact ⟨h.schedule, h.controlOutbox, h.counters⟩

omit [Double D] in
theorem startDiscovery (h : w.Idles k) : w.startDiscovery.2.Idles k := by
  rw [Shared.startDiscovery]
  split
  · exact h
  · exact ⟨h.schedule, h.controlOutbox, h.counters⟩

omit [Double D] in
theorem start (h : w.Idles k) (available : Bool) (roomId : Bytes) :
    ({ w with transport := (w.transport.start available roomId).2 } : Shared D).Idles k := by
  rw [ZmqTransport.start]
  split
  · exact h
  · cases available <;> exact ⟨h.schedule, h.controlOutbox, h.counters⟩

theorem startTransport (h : w.Idles k) (roomId : Bytes) : (w.startTransport roomId).2.Idles k := by
  rcases herror : w.contextError with - | reason
  · rw [Alike.startTransport_available (by rw [Alike.yield_of_quiet h.schedule, herror]),
      Alike.yield_of_quiet h.schedule]
    exact h.start true roomId
  · rw [Alike.startTransport_unavailable (by rw [Alike.yield_of_quiet h.schedule, herror]),
      Alike.yield_of_quiet h.schedule]
    have hstarted := h.start false roomId
    dsimp only
    split
    · exact hstarted
    · exact ⟨hstarted.schedule, hstarted.controlOutbox, hstarted.counters⟩

end Shared.Idles

namespace Session

variable [Double D] {s : Session D} {k : TransportCounters}

theorem startTransport_client (s : Session D) :
    s.startTransport.client = { s.client with helloEnqueued := false } := by
  rw [startTransport]
  dsimp only
  rcases s.shared.startTransport s.client.config.roomId with ⟨ok, w⟩
  cases ok <;> rfl

theorem idles_startTransport (h : s.shared.Idles k) : s.startTransport.shared.Idles k := by
  have hstarted := h.startTransport s.client.config.roomId
  rw [startTransport]
  dsimp only
  rcases heq : s.shared.startTransport s.client.config.roomId with ⟨ok, w⟩
  rw [heq] at hstarted
  cases ok with
  | true => exact hstarted
  | false => exact hstarted.pushLog _

theorem idles_seekServer (h : s.shared.Idles k) (config : ClientConfig D) :
    (s.seekServer config).2.shared.Idles k := by
  rw [seekServer]
  split
  · exact idles_startTransport h
  split
  · exact h.pushLog _
  · have hstarted := h.startDiscovery
    rcases heq : s.shared.startDiscovery with ⟨ok, w⟩
    rw [heq] at hstarted
    cases ok with
    | true => exact hstarted
    | false => exact hstarted.pushLog _

/-- What a search for a server leaves of the client. -/
theorem seekServer_client (s : Session D) (config : ClientConfig D) :
    (s.seekServer config).2.client.objects = s.client.objects ∧
      (config.serverAddress = [] →
        (s.seekServer config).2.client.resolvedAddress = s.client.resolvedAddress) := by
  rw [seekServer]
  split
  · next hgiven =>
    refine ⟨?_, fun hnone ↦ ?_⟩
    · rw [startTransport_client]
    · rw [hnone] at hgiven
      simp at hgiven
  split
  · exact ⟨rfl, fun _ ↦ rfl⟩
  · rcases s.shared.startDiscovery with ⟨ok, w⟩
    cases ok <;> exact ⟨rfl, fun _ ↦ rfl⟩

/-- **What `connect` keeps of the past.** -/
theorem connect_keeps (hended : s.Ended) (hquiet : s.shared.schedule = [])
    (config : ClientConfig D) :
    (s.connect config).2.shared.Idles s.shared.transport.counters ∧
      (s.connect config).2.client.objects.objects =
        s.client.objects.clearRoomScopedState.objects ∧
      (config.serverAddress = [] →
        (s.connect config).2.client.resolvedAddress = s.client.resolvedAddress) := by
  have hidles : s.shared.Idles s.shared.transport.counters :=
    ⟨hquiet, hended.holdless.controlOutbox, rfl⟩
  obtain ⟨hobjects, haddress⟩ := seekServer_client (s.beginSession config) config
  rw [connect_eq, if_neg fun hstate ↦ hstate.1 hended.state]
  refine ⟨idles_seekServer hidles.stopDiscovery.stopTransport.clearInbox config, ?_, haddress⟩
  rw [hobjects]
  rfl

end Session

namespace CountedSession

variable [DoubleTrig D] [DoubleText D] {c : CountedSession D}

/-- A quiet `connect` leaves the statistics as they are. -/
theorem transportStats_connect (hended : c.session.Ended) (decode : Bytes → Option (List Bytes))
    (config : ClientConfig D) :
    (c.live decode ({}, .connect config [])).transportStats = c.transportStats := by
  have hrest : c.session.atRest.Ended := { hended with }
  obtain ⟨hidles, -, -⟩ := Session.connect_keeps hrest rfl config
  have hcounters := hidles.counters
  have hqueue : c.session.shared.transport.controlOutbox.length = 0 := by
    rw [hended.holdless.controlOutbox, List.length_nil]
  have hqueue' : (c.session.atRest.connect config).2.shared.transport.controlOutbox.length = 0 := by
    rw [hidles.controlOutbox, List.length_nil]
  simp only [ZmqTransport.counters, TransportCounters.mk.injEq, Session.atRest] at hcounters hqueue'
  simp only [transportStats, live, Session.live, NetworkTally.add, TransportStats.mk.injEq]
  omega

/-- **Marks show**: the address and the poses of before right after `connect`, and so do the
statistics. -/
theorem unmarked_of_isolated (hended : c.session.Ended) {decode : Bytes → Option (List Bytes)}
    {k : TransportStats} {config : ClientConfig D} (h : c.Isolated decode k config) :
    (config.serverAddress = [] → c.session.client.resolvedAddress = []) ∧
      (∀ (objectId : UInt32) (entry : ObjectEntry D),
        c.session.client.objects.objects[objectId]? = some entry →
          entry.state.pose = PoseTransform.default) ∧
      c.transportStats = k := by
  have hseen := h {} [] [] (Or.inr (by simp [LifeStep.schedule]))
  have hview : (c.live decode ({}, .connect config [])).view {} =
      (c.freshlyBuilt.live decode ({}, .connect config [])).view k :=
    congrArg Prod.snd (List.head_eq_of_cons_eq hseen)
  have hrest : c.session.atRest.Ended := { hended with }
  have hfresh : c.freshlyBuilt.session.atRest.Ended :=
    { Session.ended_freshlyBuilt c.session with }
  obtain ⟨-, hobjects, haddress⟩ := Session.connect_keeps hrest rfl config
  obtain ⟨-, hobjects', haddress'⟩ := Session.connect_keeps hfresh rfl config
  refine ⟨fun hnone ↦ ?_, fun objectId entry hget ↦ ?_, ?_⟩
  · have hshown := congrArg (fun view ↦ view.client.serverAddress) hview
    exact (haddress hnone).symm.trans (hshown.trans (haddress' hnone))
  · have hshown : (c.session.atRest.connect config).2.client.objects.getState objectId =
        (c.freshlyBuilt.session.atRest.connect config).2.client.objects.getState objectId :=
      congrArg (fun view ↦ view.client.getObjectState objectId) hview
    rw [ObjectSyncManager.getState, ObjectSyncManager.getState, hobjects, hobjects',
      ObjectSyncManager.get?_clearRoomScopedState, ObjectSyncManager.get?_clearRoomScopedState]
      at hshown
    have hkept : c.session.atRest.client.objects.objects[objectId]? = some entry := hget
    have hbuilt : c.freshlyBuilt.session.atRest.client.objects.objects[objectId]? =
        some (.registered objectId) := by
      show c.session.freshlyBuilt.client.objects.objects[objectId]? = _
      rw [Session.get?_freshlyBuilt, hget]
      rfl
    rw [hkept, hbuilt] at hshown
    exact congrArg ObjectState.pose (Option.some.inj hshown)
  · have hshown : TransportStats.credit {} (c.live decode ({}, .connect config [])).transportStats =
        k.credit (c.freshlyBuilt.live decode ({}, .connect config [])).transportStats :=
      congrArg SessionView.transportStats hview
    rw [transportStats_connect hended,
      transportStats_connect (Session.ended_freshlyBuilt c.session)] at hshown
    have hcredited : k.credit c.freshlyBuilt.transportStats = k := by
      simp [TransportStats.credit, transportStats, freshlyBuilt, Session.freshlyBuilt]
    exact hshown.trans hcredited

/-- A life compared with itself. -/
theorem alike_self (decode : Bytes → Option (List Bytes)) (clock : D)
    (history : List (CountedStep D)) :
    Session.Alike {} True (history.foldl (live decode) ⟨Session.new clock, {}⟩).session
      (history.foldl (live decode) ⟨Session.new clock, {}⟩).session := by
  refine List.foldlRecOn
    (motive := fun c : CountedSession D ↦ Session.Alike {} True c.session c.session)
    history (live decode) ?_ fun c hc e _ ↦ hc.live decode (Or.inl trivial)
  refine ⟨rfl, ⟨rfl, rfl, rfl, rfl, rfl, fun _ ↦ rfl⟩, ⟨⟨rfl, fun _ ↦ ⟨rfl, rfl⟩, rfl, rfl, rfl,
    rfl, rfl, rfl, rfl, fun _ ↦ ⟨rfl, rfl, rfl, rfl⟩⟩, rfl, rfl, rfl, rfl, rfl, rfl, rfl, rfl,
    Or.inl trivial⟩, rfl, ?_⟩
  intro objectId entry hget
  simp [Session.new, NetSyncClient.new] at hget

theorem ended_ended (decode : Bytes → Option (List Bytes)) (clock : D)
    (history : List (CountedStep D)) (tally : NetworkTally) (before during : List (NetworkStep D)) :
    (ended decode clock history tally before during).session.Ended := by
  have hpast := alike_self decode clock history
  generalize hc : history.foldl (live decode) ⟨Session.new clock, {}⟩ = c at hpast
  have hasked : Shared.Alike {} True { c.session.shared with schedule := [before, during] }
      { c.session.shared with schedule := [before, during] } :=
    hpast.shared.withSchedule (Or.inl trivial)
  have hended := Session.ended_disconnect (hpast.withShared hasked) rfl
  rw [ended, hc]
  exact { hended with }

/-- **Isolation of sessions.** After any life that ends with `disconnect`, a session that finds no
mark of the past looks, in all that happens in it, like that of a freshly built client that is
credited with the statistics of the old one; and a session that looks like that of a freshly built
client finds no address and no told pose, and no statistics but the credited ones. -/
theorem next_session_isolated (decode : Bytes → Option (List Bytes)) (clock : D)
    (history : List (CountedStep D)) (tally : NetworkTally) (before during : List (NetworkStep D))
    (config : ClientConfig D) (k : TransportStats) :
    let c := ended decode clock history tally before during
    (c.session.Unmarked config ∧ c.transportStats = k → c.Isolated decode k config) ∧
      (c.Isolated decode k config →
        (config.serverAddress = [] → c.session.client.resolvedAddress = []) ∧
          (∀ (objectId : UInt32) (entry : ObjectEntry D),
            c.session.client.objects.objects[objectId]? = some entry →
              entry.state.pose = PoseTransform.default) ∧
          c.transportStats = k) := by
  intro c
  have hended : c.session.Ended := ended_ended decode clock history tally before during
  refine ⟨?_, unmarked_of_isolated hended⟩
  rintro ⟨hunmarked, rfl⟩
  exact isolated_of_unmarked hended rfl decode hunmarked

/-! ### Two lives -/

/-- The device `d` in the room `r`. -/
def visitConfig (serverAddress : Bytes) : ClientConfig ℚ :=
  { serverAddress := serverAddress, roomId := [114], deviceId := [100], transformSendRate := 10 }

/-- An object is registered, the client says hello, and its number and an owner of the object are
told. -/
def visit : List (CountedStep ℚ) :=
  [({}, .session (.call (.registerObject 7) [])),
    ({}, .connect (visitConfig [49]) []),
    ({}, .session (.network (.notify .connected))),
    ({}, .session (.call (.poll 0) [])),
    ({}, .session (.network .drainBegin)),
    ({}, .session (.network (.drainStep .sent ""))),
    ({ messagesReceived := 1 }, .session (.network (.payload .control
      (serializeDeviceIdMapping
        { serverVersionMajor := 0, serverVersionMinor := 0, serverVersionPatch := 0,
          mappings := [⟨1, [100], false⟩] })))),
    ({ messagesReceived := 1 }, .session (.network (.payload .control
      (serializeObjectOwnershipChanged
        { objectId := 7, newOwnerClientNo := 1, previousOwnerClientNo := 0 })))),
    ({}, .session (.call (.poll 1) []))]

deriving instance DecidableEq for Vec3, Quat, PoseTransform

/-- The next session, at another address, finds no mark. -/
theorem next_session_isolated_visit :
    let past := visit.foldl (live fun _ ↦ none) ⟨Session.new 0, {}⟩
    let c := ended (fun _ ↦ none) 0 visit {} [] []
    past.session.client.clientNo = 1 ∧ past.session.client.objects.ownerOf 7 = 1 ∧
      c.Isolated (fun _ ↦ none) { messagesSent := 1, messagesReceived := 2 }
        (visitConfig [50]) := by
  refine ⟨by decide +kernel, by decide +kernel, ?_⟩
  refine (next_session_isolated (fun _ ↦ none) 0 visit {} [] [] (visitConfig [50])
    { messagesSent := 1, messagesReceived := 2 }).1 ⟨⟨nofun, ?_⟩, by decide +kernel⟩
  have hall :
      ∀ pair ∈ (ended (fun _ ↦ none) 0 visit {} [] []).session.client.objects.objects.toList,
        pair.2.state.pose = PoseTransform.default ∧ pair.2.localPose = none := by
    decide +kernel
  intro objectId entry hget
  obtain ⟨hpose, hlocal⟩ := hall (objectId, entry)
    (Std.ExtTreeMap.mem_toList_iff_getElem?_eq_some.mpr hget)
  exact ⟨hpose, hlocal⟩

/-- The client was connected to the server `1`. -/
def oneServer : List (CountedStep ℚ) := [({}, .connect (visitConfig [49]) [])]

/-- While it looks for another, it shows the first. -/
theorem address_shown_again :
    let c := ended (fun _ ↦ none) 0 oneServer {} [] []
    let search : CountedStep ℚ := ({}, .connect (visitConfig []) [])
    (c.live (fun _ ↦ none) search).session.client.view.serverAddress = [49] ∧
      (c.freshlyBuilt.live (fun _ ↦ none) search).session.client.view.serverAddress = [] ∧
      ¬c.Isolated (fun _ ↦ none) {} (visitConfig []) := by
  refine ⟨by decide +kernel, by decide +kernel, fun hisolated ↦ ?_⟩
  have hseen := hisolated {} [] [] (Or.inr (by simp [LifeStep.schedule]))
  have hshown := congrArg (List.map fun seen ↦ seen.2.client.serverAddress) hseen
  exact absurd hshown (by decide +kernel)

end CountedSession

end StylyNetSync
