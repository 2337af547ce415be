import StylyNetSync.Core.DeviceMapping
import StylyNetSync.Core.ObjectSyncManager
import StylyNetSync.Core.RpcManager
import StylyNetSync.Core.SharedState
import StylyNetSync.Protocol.Deserialize

/-!
# The client

`NetSyncClient` of the source: lifecycle, message routing and state. What the host's thread owns is
in `NetSyncClient`, what it shares with the other threads in `Shared`, and a `Session` is the two
together with the events of the poll under way.

The decoder of RPC arguments is a parameter. `told` only observes: it is the number of control
packets accepted when a snapshot last wrote the dedupe cache of a client variable, if one did.
-/

namespace StylyNetSync

/-! ### Data -/

inductive ConnectionState
  | disconnected
  | connecting
  | connected
  | synchronizing
  | ready
  | error
  deriving DecidableEq

/-- A single thing that happened, produced by `poll` for the host to dispatch. -/
inductive Event
  | connectionStateChanged (state : ConnectionState)
  | ready (clientNo : ℤ)
  | connectionError (text : String)
  | serverDiscovered (server : DiscoveredServer)
  | clientNoAssigned (clientNo : ℤ)
  | avatarConnected (clientNo : ℤ) (deviceId : Bytes)
  | avatarDisconnected (clientNo : ℤ)
  | rpcReceived (sender : ℤ) (functionName : Bytes) (args : List Bytes)
  | globalVariableChanged (change : VariableChange)
  | clientVariableChanged (change : VariableChange)
  | objectOwnershipChanged (change : OwnershipChange)
  | objectOwnershipRejected (rejection : OwnershipRejection)
  | serverVersion (major minor patch : ℤ)
  | log (text : String)

structure ClientConfig (D : Type) where
  /-- Empty enables LAN discovery. -/
  serverAddress : Bytes
  controlPort : ℤ := 5555
  transformPort : ℤ := 5557
  subPort : ℤ := 5556
  discoveryPort : ℤ := 9999
  roomId : Bytes
  deviceId : Bytes
  /-- A stealth client has no avatar. -/
  stealthMode : Bool := false
  /-- Pose sends per second. -/
  transformSendRate : D
  enableDiscovery : Bool := true

/-- Latest known pose of one remote client. -/
structure RemoteClientPose (D : Type) where
  clientNo : ℤ
  poseTime : UInt64
  broadcastTime : UInt64
  body : ClientPoseBody D

structure NetSyncClient (D : Type) where
  config : ClientConfig D
  resolvedAddress : Bytes := []
  discoveredRestApiPort : ℤ := 0
  mapping : DeviceMapping := {}
  rpcManager : RpcManager D
  networkVariables : NetworkVariableManager D
  objects : ObjectSyncManager D := {}
  state : ConnectionState := .disconnected
  readyFired : Bool := false
  versionChecked : Bool := false
  helloEnqueued : Bool := false
  localPose : Option (ClientPoseBody D) := none
  localPoseSeq : UInt16 := 0
  lastPoseSendTime : D
  lastPoseChangeSendTime : D
  lastPoseSignature : Option Bytes := none
  remotePoses : OrderedMap ℤ (RemoteClientPose D) := ∅
  lastRoomBroadcastTime : UInt64 := 0

structure Session (D : Type) where
  client : NetSyncClient D
  shared : Shared D
  /-- The events of the poll under way. -/
  events : List Event := []
  told : ClientKey → Option ℕ := fun _ ↦ none

/-- `default_room`. -/
def kDefaultRoom : Bytes := [100, 101, 102, 97, 117, 108, 116, 95, 114, 111, 111, 109]

section Constants

variable {D : Type} [Double D]

/-- An unchanged pose is still re-sent this often. -/
def kPoseHeartbeatSeconds : D := Double.lit 1

/-- The send rate is clamped to the range the server expects. -/
def clampSendRate (rate : D) : D :=
  Double.min (Double.lit 60) (Double.max (Double.lit (1 / 2)) rate)

def ClientPoseBody.default : ClientPoseBody D where
  poseSeq := 0
  flags := 0
  encodingFlags := 0
  xrOriginDeltaPosition := Vec3.zero
  xrOriginDeltaYaw := Double.lit 0
  physical := PoseTransform.default
  head := PoseTransform.default
  rightHand := PoseTransform.default
  leftHand := PoseTransform.default
  virtuals := []

end Constants

/-- The change-detection signature of a pose body: its serialised form without device id and
sequence number. -/
def poseSignature {D : Type} [DoubleTrig D] (body : ClientPoseBody D) : Bytes :=
  serializeClientPose { deviceId := [], body := { body with poseSeq := 0 } }

/-- The configuration of a client that was never connected. -/
def ClientConfig.default {D : Type} [Double D] : ClientConfig D where
  serverAddress := []
  roomId := kDefaultRoom
  deviceId := []
  transformSendRate := Double.lit 10

namespace NetSyncClient

variable {D : Type}

/-- A newly constructed client. -/
def new [Double D] : NetSyncClient D where
  config := ClientConfig.default
  rpcManager := RpcManager.default
  networkVariables := { connectionEstablishedAt := Double.lit 0 }
  lastPoseSendTime := Double.lit (-1000000000)
  lastPoseChangeSendTime := Double.lit (-1000000000)

/-- The message with which a client introduces itself. -/
def helloMessage (c : NetSyncClient D) : ControlMessage :=
  .clientHello c.config.deviceId c.config.stealthMode

/-- `client_no()`. -/
def clientNo (c : NetSyncClient D) : ℤ := c.mapping.localClientNo

def getRemotePose (clientNo : ℤ) (c : NetSyncClient D) : Option (RemoteClientPose D) :=
  c.remotePoses[clientNo]?

def remoteClientNumbers (c : NetSyncClient D) : List ℤ := c.remotePoses.toList.map Prod.fst

def hasHandshake (c : NetSyncClient D) : Bool := c.mapping.localClientNo > 0

/-- The part of `reset_session_state` that the host's thread owns. -/
def resetSession [Double D] (c : NetSyncClient D) : NetSyncClient D :=
  { c with
    mapping := c.mapping.clear.setLocalDeviceId c.config.deviceId
    rpcManager := c.rpcManager.clearPending
    -- the identity of the managers stays until `resetIdentity`
    networkVariables := c.networkVariables.clearAll
    objects := c.objects.clearRoomScopedState
    remotePoses := ∅
    lastRoomBroadcastTime := 0
    readyFired := false
    versionChecked := false
    helloEnqueued := false
    localPose := none
    localPoseSeq := 0
    lastPoseSendTime := Double.lit (-1000000000)
    lastPoseChangeSendTime := Double.lit (-1000000000)
    lastPoseSignature := none
    discoveredRestApiPort := 0 }

/-- A new session has no client number yet. -/
def resetIdentity (c : NetSyncClient D) : NetSyncClient D :=
  { c with
    mapping := c.mapping.setLocalDeviceId c.config.deviceId
    networkVariables := c.networkVariables.setLocalIdentity 0 c.config.deviceId
    objects := c.objects.setLocalIdentity 0 c.config.deviceId }

end NetSyncClient

namespace Session

section Core

variable {D : Type}

/-- A newly constructed client and its threads, none of which runs. -/
def new [Double D] (clock : D) : Session D where
  client := NetSyncClient.new
  shared := { clock := clock }

def emit (event : Event) (s : Session D) : Session D :=
  { s with events := s.events ++ [event] }

def setState (state : ConnectionState) (s : Session D) : Session D :=
  if s.client.state = state then s
  else { s with client := { s.client with state := state } }.emit (.connectionStateChanged state)

variable [Double D]

def pushLog (text : String) (s : Session D) : Session D :=
  { s with shared := s.shared.pushLog text }

/-! ### Lifecycle -/

def resetSessionState (s : Session D) : Session D :=
  { s with
    shared := s.shared.clearInbox
    client := s.client.resetSession
    told := fun _ ↦ none }

/-- The hello flag is reset before the transport is started; a transport that runs already is left
running. -/
def startTransport (s : Session D) : Session D :=
  let s := { s with client := { s.client with helloEnqueued := false } }
  match s.shared.startTransport s.client.config.roomId with
  | (true, w) => { s with shared := w }
  | (false, w) => { s with shared := w }.pushLog "transport is already running"

/-- The first half of `connect`: whatever ran before is stopped, the configuration is taken over,
and the client has no number. -/
def beginSession (config : ClientConfig D) (s : Session D) : Session D :=
  let s := { s with shared := s.shared.stopDiscovery.stopTransport }
  let config :=
    { config with
      transformSendRate := clampSendRate config.transformSendRate
      roomId := if config.roomId.isEmpty then kDefaultRoom else config.roomId }
  let s := { s with client := { s.client with config := config } }
  let s := s.resetSessionState
  { s with client := { s.client.resetIdentity with state := .connecting } }

/-- Start a session: with the server that is configured, or with one that discovery will find. -/
def connect (config : ClientConfig D) (s : Session D) : Bool × Session D :=
  if s.client.state ≠ .disconnected ∧ s.client.state ≠ .error then (false, s)
  else
    let s := s.beginSession config
    if !config.serverAddress.isEmpty then
      let s := { s with client := { s.client with resolvedAddress := config.serverAddress } }
      (true, s.startTransport)
    else if !config.enableDiscovery then
      let s := { s with client := { s.client with state := .error } }
      (false, s.pushLog "no server address configured and discovery is disabled")
    else
      -- the transport is started when the poll hears of a server
      match s.shared.startDiscovery with
      | (true, w) => (true, { s with shared := w })
      | (false, w) =>
        let s := { s with shared := w, client := { s.client with state := .error } }
        (false, s.pushLog "failed to start server discovery")

def disconnect (s : Session D) : Session D :=
  let s := { s with shared := s.shared.stopDiscovery.stopTransport }
  let s := s.resetSessionState
  { s with client := { s.client with state := .disconnected } }

/-- `is_ready()`, which asks the transport first. -/
def isReady (s : Session D) : Bool × Session D :=
  match s.shared.isConnected with
  | (connected, w) =>
    (connected && s.client.hasHandshake && s.client.networkVariables.hasReceivedInitialSync,
      { s with shared := w })

/-! ### Inbound messages -/

/-- One notification of another thread. -/
def handleNotification (s : Session D) : Notification → Session D
  | .connected => s.setState .connected
  | .error text => (s.setState .error).emit (.connectionError text)
  | .log text => s.emit (.log text)
  | .discovered server =>
    let s :=
      { s with
        client :=
          { s.client with
            resolvedAddress := server.address
            discoveredRestApiPort := server.restApiPort } }
    (s.emit (.serverDiscovered server)).startTransport

def drainInternalEvents (s : Session D) : Session D :=
  match s.shared.takeNotifications with
  | (notifications, w) => notifications.foldl handleNotification { s with shared := w }

/-- A device id mapping: the table is replaced, and the local number may be learnt. -/
def processDeviceIdMapping (message : DeviceIdMappingMessage) (s : Session D) : Session D :=
  match s.client.mapping.apply message with
  | (result, mapping) =>
    let c := s.client
    let c :=
      { c with
        mapping := mapping
        networkVariables :=
          c.networkVariables.setLocalIdentity mapping.localClientNo c.config.deviceId
        objects := c.objects.setLocalIdentity mapping.localClientNo c.config.deviceId }
    let s := { s with client := c }
    let s :=
      -- the version is reported once in a session
      if c.versionChecked then s
      else
        { s with client := { c with versionChecked := true } }.emit
          (.serverVersion result.serverVersionMajor result.serverVersionMinor
            result.serverVersionPatch)
    if result.localClientNoChanged then s.emit (.clientNoAssigned result.localClientNo) else s

def processRpc (decodeJsonStringArray : Bytes → Option (List Bytes)) (message : RpcMessage)
    (s : Session D) : Session D :=
  match decodeJsonStringArray message.argumentsJson with
  | some args => s.emit (.rpcReceived message.senderClientNo.toNat message.functionName args)
  | none =>
    let s := s.pushLog ("RPC '" ++ logText message.functionName ++
      "' carried arguments that are not a JSON array; delivering none")
    s.emit (.rpcReceived message.senderClientNo.toNat message.functionName [])

def processGlobalVarSync (message : GlobalVarSyncMessage) (s : Session D) : Session D :=
  match s.client.networkVariables.handleGlobalSync message with
  | (m, changes) =>
    { s with
      client := { s.client with networkVariables := m }
      events := s.events ++ changes.map .globalVariableChanged }

/-- The block of the snapshot that has the variable. -/
def tellsVariable (message : ClientVarSyncMessage) (key : ClientKey) : Bool :=
  message.clients.any fun block ↦
    (block.1.toNat : ℤ) == key.clientNo &&
      (NetworkVariableManager.snapshotOf block.2).contains key.name

def processClientVarSync (message : ClientVarSyncMessage) (s : Session D) : Session D :=
  match s.client.networkVariables.handleClientSync message with
  | (m, changes) =>
    { s with
      client := { s.client with networkVariables := m }
      events := s.events ++ changes.map .clientVariableChanged
      told := fun key ↦
        if tellsVariable message key then some s.shared.transport.ledger.entries.length
        else s.told key }

def processOwnershipChanged (message : ObjectOwnershipChangedMessage) (s : Session D) :
    Session D :=
  match s.client.objects.handleOwnershipChanged message with
  | (objects, change) =>
    { s with client := { s.client with objects := objects } }.emit (.objectOwnershipChanged change)

/-- A control payload, by its type. A payload that does not decode is only logged; reserved and
server-only types are ignored. -/
def processControlPayload (decodeJsonStringArray : Bytes → Option (List Bytes)) (s : Session D)
    (payload : Bytes) : Session D :=
  let type := peekMessageType payload
  if type = MessageType.deviceIdMapping.code then
    match (deserializeDeviceIdMapping.run payload).1 with
    | none => s.pushLog "malformed device id mapping message"
    | some message => s.processDeviceIdMapping message
  else if type = MessageType.rpc.code then
    match (deserializeRpc.run payload).1 with
    | none => s.pushLog "malformed RPC message"
    | some message => s.processRpc decodeJsonStringArray message
  else if type = MessageType.globalVarSync.code then
    match (deserializeGlobalVarSync.run payload).1 with
    | none => s.pushLog "malformed global variable sync message"
    | some message => s.processGlobalVarSync message
  else if type = MessageType.clientVarSync.code then
    match (deserializeClientVarSync.run payload).1 with
    | none => s.pushLog "malformed client variable sync message"
    | some message => s.processClientVarSync message
  else if type = MessageType.objectOwnershipChanged.code then
    match (deserializeObjectOwnershipChanged.run payload).1 with
    | none => s.pushLog "malformed object ownership changed message"
    | some message => s.processOwnershipChanged message
  else if type = MessageType.objectOwnershipRejected.code then
    match (deserializeObjectOwnershipRejected.run payload).1 with
    | none => s.pushLog "malformed object ownership rejected message"
    | some message =>
      s.emit (.objectOwnershipRejected (ObjectSyncManager.handleOwnershipRejected message))
  else s

def processRoomObjects (payload : Bytes) (s : Session D) : Session D :=
  match (deserializeRoomObjects.run payload).1 with
  | none => s.pushLog "malformed room objects message"
  | some message =>
    match s.client.objects.handleRoomObjects message with
    | (objects, changes) =>
      { s with
        client := { s.client with objects := objects }
        events := s.events ++ changes.map .objectOwnershipChanged }

/-- The clients of a room pose that are not this one. The local avatar is driven locally, never
echoed back. -/
def remoteClients (localClientNo : ℤ) (clients : List (RoomPoseClient D)) :
    List (RoomPoseClient D) :=
  clients.filter fun client ↦
    !((client.clientNo.toNat : ℤ) = localClientNo && localClientNo ≠ 0)

def remotePose (broadcastTime : UInt64) (client : RoomPoseClient D) : RemoteClientPose D where
  clientNo := client.clientNo.toNat
  poseTime := client.poseTime
  broadcastTime := broadcastTime
  body := client.body

/-- A room-pose frame: the remote poses are replaced, and presence is updated. -/
def applyRoomPose (message : RoomPoseMessage D) (s : Session D) : Session D :=
  let remote := remoteClients s.client.mapping.localClientNo message.clients
  let poses := remote.foldl (fun poses client ↦
    poses.insert (client.clientNo.toNat : ℤ) (remotePose message.broadcastTime client)) ∅
  match s.client.mapping.updatePresence (remote.map fun client ↦ (client.clientNo.toNat : ℤ)) with
  | (connected, disconnected, mapping) =>
    { s with
      client :=
        { s.client with
          mapping := mapping
          remotePoses := poses
          lastRoomBroadcastTime := message.broadcastTime }
      events :=
        s.events ++
          connected.map (fun clientNo ↦ .avatarConnected clientNo (mapping.deviceIdFor clientNo)) ++
          disconnected.map .avatarDisconnected }

def updateReady (s : Session D) : Session D :=
  if s.client.state = .error ∨ s.client.state = .disconnected then s
  else
    match s.isReady with
    | (true, s) =>
      let s := s.setState .ready
      if s.client.readyFired then s
      else
        { s with client := { s.client with readyFired := true } }.emit
          (.ready s.client.mapping.localClientNo)
    | (false, s) =>
      -- readiness was lost, so the host may fire again
      if s.client.state = .ready then
        let s := s.setState .synchronizing
        { s with client := { s.client with readyFired := false } }
      else s

/-! ### Outbound messages -/

/-- The hello must be the first control message of the connection: the server binds the control
identity from it. -/
def enqueueHello (s : Session D) : Session D :=
  match s.shared.tryEnqueueControl s.client.helloMessage with
  | (true, w) => { s with shared := w, client := { s.client with helloEnqueued := true } }
  | (false, w) => { s with shared := w }

/-- Once the sockets are up, the client says hello. -/
def greet (now : D) (s : Session D) : Session D :=
  if s.client.state = .connected ∧ s.client.helloEnqueued = false then
    let c := s.client
    let s :=
      { s with
        client := { c with networkVariables := c.networkVariables.onConnectionEstablished now } }
    let s := s.enqueueHello
    if s.client.helloEnqueued then s.setState .synchronizing else s
  else s

def tickVariables (now : D) (s : Session D) : Session D :=
  match s.client.networkVariables.tick Shared.callbacks now s.shared with
  | (_, m, w) => { s with client := { s.client with networkVariables := m }, shared := w }

def tickObjects (now : D) (s : Session D) : Session D :=
  match s.client.objects.tick (some Shared.setLatestObjectTransform) now
    s.client.config.transformSendRate s.shared with
  | (objects, w) => { s with client := { s.client with objects := objects }, shared := w }

def checkInitialSyncTimeout (now : D) (s : Session D) : Session D :=
  match s.client.networkVariables.checkInitialSyncTimeout Shared.callbacks now s.shared with
  | (_, m, w) => { s with client := { s.client with networkVariables := m }, shared := w }

end Core

/-! ### Poses -/

variable {D : Type} [DoubleTrig D]

def processRoomPose (payload : Bytes) (s : Session D) : Session D :=
  match (deserializeRoomPose.run payload).1 with
  | none => s.pushLog "malformed room pose message"
  | some message =>
    if message.roomId ≠ s.client.config.roomId then s else s.applyRoomPose message

/-- The pose to publish: a stealth client publishes only the handshake heartbeat. -/
def outgoingPose (c : NetSyncClient D) : Option (ClientPoseBody D) :=
  if c.config.stealthMode then some { ClientPoseBody.default with flags := PoseFlag.stealth }
  else c.localPose

def sendLocalPoseIfDue (now : D) (s : Session D) : Session D :=
  match s.shared.isConnected with
  | (false, w) => { s with shared := w }
  | (true, w) =>
    let s := { s with shared := w }
    let c := s.client
    match outgoingPose c with
    | none => s
    | some body =>
      let sendInterval :=
        Double.lit 1 / Double.max (Double.lit (1 / 2)) c.config.transformSendRate
      if Double.lt (now - c.lastPoseSendTime) sendInterval then s
      else
        let signature := poseSignature body
        if c.lastPoseSignature = some signature &&
            Double.lt (now - c.lastPoseChangeSendTime) kPoseHeartbeatSeconds then
          -- nothing moved and the heartbeat is not due: stay quiet
          { s with client := { c with lastPoseSendTime := now } }
        else
          -- whether the transport takes it is not asked: the send counts as made
          let seq := c.localPoseSeq + 1
          let payload := serializeClientPose
            { deviceId := c.config.deviceId, body := { body with poseSeq := seq } }
          { s with
            shared := s.shared.setLatestTransform payload
            client :=
              { c with
                localPoseSeq := seq
                lastPoseSendTime := now
                lastPoseChangeSendTime := now
                lastPoseSignature := some signature } }

/-! ### The poll -/

/-- What arrived since the last poll. -/
def processMail (decodeJsonStringArray : Bytes → Option (List Bytes)) (mail : Shared.Mail)
    (s : Session D) : Session D :=
  let s := match mail.roomPose with
    | none => s
    | some payload => s.processRoomPose payload
  let s := mail.control.foldl (processControlPayload decodeJsonStringArray) s
  match mail.roomObjects with
  | none => s
  | some payload => s.processRoomObjects payload

def drainInbox (decodeJsonStringArray : Bytes → Option (List Bytes)) (s : Session D) : Session D :=
  match s.shared.takeMail with
  | (mail, w) => { s with shared := w }.processMail decodeJsonStringArray mail

variable [DoubleText D]

def flushRpc (now : D) (s : Session D) : Session D :=
  match s.isReady with
  | (ready, s) =>
    let c := s.client
    match c.rpcManager.flushPending Shared.callbacks now ready c.mapping.localClientNo
      c.config.deviceId s.shared with
    | (_, rpcManager, w) => { s with client := { c with rpcManager := rpcManager }, shared := w }

/-- Control traffic is flushed before the pose, so that a low-bandwidth link does not starve calls
and variables. -/
def flush (now : D) (s : Session D) : Session D :=
  ((((s.tickVariables now).flushRpc now).sendLocalPoseIfDue now).tickObjects now)
    |>.checkInitialSyncTimeout now

/-- Drive the client. -/
def poll (decodeJsonStringArray : Bytes → Option (List Bytes)) (now : D) (s : Session D) :
    List Event × Session D :=
  if s.client.state = .disconnected then ([], s)
  else
    let s := { s with events := [] }.drainInternalEvents
    let s := (s.greet now).drainInbox decodeJsonStringArray
    let s := (s.flush now).updateReady
    (s.events, s)

/-! ### Calls of the host -/

def setGlobalVariable (name value : Bytes) (s : Session D) : Bool × Session D :=
  match s.shared.monotonicSeconds with
  | (now, w) =>
    match s.client.networkVariables.setGlobal Shared.callbacks now name value w with
    | (ok, m, w) => (ok, { s with client := { s.client with networkVariables := m }, shared := w })

def setClientVariableFor (targetClientNo : ℤ) (name value : Bytes) (s : Session D) :
    Bool × Session D :=
  match s.shared.monotonicSeconds with
  | (now, w) =>
    match s.client.networkVariables.setClient Shared.callbacks now targetClientNo name value w with
    | (ok, m, w) => (ok, { s with client := { s.client with networkVariables := m }, shared := w })

def setClientVariable (name value : Bytes) (s : Session D) : Bool × Session D :=
  s.setClientVariableFor s.client.mapping.localClientNo name value

/-- The list of changes is local to the call: nothing is emitted for it. -/
def clearMyClientVariables (s : Session D) : Bool × Session D :=
  match s.client.networkVariables.clearMyClientVariables Shared.callbacks s.shared with
  | (ok, _, m, w) =>
    (ok, { s with client := { s.client with networkVariables := m }, shared := w })

def requestObjectOwnership (objectId : UInt32) (s : Session D) : Bool × Session D :=
  match s.client.objects.requestOwnership Shared.callbacks objectId s.shared with
  | (ok, w) => (ok, { s with shared := w })

def releaseObjectOwnership (objectId : UInt32) (s : Session D) : Bool × Session D :=
  match s.client.objects.releaseOwnership Shared.callbacks objectId s.shared with
  | (ok, w) => (ok, { s with shared := w })

/-- The time is that of the transport's clock, so that the rate limiter agrees with the queue. -/
def rpcToMany (targetClientNos : List ℤ) (functionName : Bytes) (args : List Bytes)
    (s : Session D) : Session D :=
  match s.shared.monotonicSeconds with
  | (now, w) =>
    match { s with shared := w }.isReady with
    | (ready, s) =>
      let c := s.client
      match c.rpcManager.send Shared.callbacks now ready c.mapping.localClientNo c.config.deviceId
        targetClientNos functionName args s.shared with
      | (rpcManager, w) => { s with client := { c with rpcManager := rpcManager }, shared := w }

def rpc (functionName : Bytes) (args : List Bytes) (s : Session D) : Session D :=
  s.rpcToMany [] functionName args

def rpcTo (targetClientNo : ℤ) (functionName : Bytes) (args : List Bytes) (s : Session D) :
    Session D :=
  s.rpcToMany [targetClientNo] functionName args

def registerObject (objectId : UInt32) (s : Session D) : Bool × Session D :=
  match s.client.objects.registerObject Shared.callbacks objectId s.shared with
  | (ok, objects, w) => (ok, { s with client := { s.client with objects := objects }, shared := w })

end Session

/-- What the host can do to a client that is in a session. -/
inductive HostCall (D : Type)
  | poll (now : D)
  | setGlobalVariable (name value : Bytes)
  | setClientVariable (name value : Bytes)
  | setClientVariableFor (targetClientNo : ℤ) (name value : Bytes)
  | clearMyClientVariables
  | requestObjectOwnership (objectId : UInt32)
  | releaseObjectOwnership (objectId : UInt32)
  | rpc (functionName : Bytes) (args : List Bytes)
  | rpcTo (targetClientNo : ℤ) (functionName : Bytes) (args : List Bytes)
  | rpcToMany (targetClientNos : List ℤ) (functionName : Bytes) (args : List Bytes)
  | configureRpcRateLimit (rpcLimit : ℤ) (windowSeconds warnCooldown : D)
  | setTransformSendRate (rate : D)
  | setLocalPose (body : ClientPoseBody D)
  | clearLocalPose
  | registerObject (objectId : UInt32)
  | unregisterObject (objectId : UInt32)
  | submitObjectPose (objectId : UInt32) (pose : PoseTransform D)

/-- A step of a session: of another thread, or a call of the host, during which the other threads
take the steps of the schedule. -/
inductive SessionStep (D : Type)
  | network (step : NetworkStep D)
  | call (call : HostCall D) (schedule : List (List (NetworkStep D)))

namespace Session

variable {D : Type} [DoubleTrig D] [DoubleText D]

/-- A call of the host, whatever it returns. -/
def perform (decodeJsonStringArray : Bytes → Option (List Bytes)) (s : Session D) :
    HostCall D → Session D
  | .poll now => (s.poll decodeJsonStringArray now).2
  | .setGlobalVariable name value => (s.setGlobalVariable name value).2
  | .setClientVariable name value => (s.setClientVariable name value).2
  | .setClientVariableFor target name value => (s.setClientVariableFor target name value).2
  | .clearMyClientVariables => s.clearMyClientVariables.2
  | .requestObjectOwnership objectId => (s.requestObjectOwnership objectId).2
  | .releaseObjectOwnership objectId => (s.releaseObjectOwnership objectId).2
  | .rpc functionName args => s.rpc functionName args
  | .rpcTo target functionName args => s.rpcTo target functionName args
  | .rpcToMany targets functionName args => s.rpcToMany targets functionName args
  | .configureRpcRateLimit rpcLimit windowSeconds warnCooldown =>
    let c := s.client
    { s with
      client :=
        { c with
          rpcManager := c.rpcManager.configureRateLimit rpcLimit windowSeconds warnCooldown } }
  | .setTransformSendRate rate =>
    let c := s.client
    { s with
      client := { c with config := { c.config with transformSendRate := clampSendRate rate } } }
  | .setLocalPose body => { s with client := { s.client with localPose := some body } }
  | .clearLocalPose =>
    { s with client := { s.client with localPose := none, lastPoseSignature := none } }
  | .registerObject objectId => (s.registerObject objectId).2
  | .unregisterObject objectId =>
    { s with client := { s.client with objects := s.client.objects.unregisterObject objectId } }
  | .submitObjectPose objectId pose =>
    { s with
      client := { s.client with objects := s.client.objects.submitLocalPose objectId pose } }

def step (decodeJsonStringArray : Bytes → Option (List Bytes)) (s : Session D) :
    SessionStep D → Session D
  | .network step => { s with shared := s.shared.step step }
  | .call call schedule =>
    { s with shared := { s.shared with schedule := schedule } }.perform decodeJsonStringArray call

end Session

/-- A step in the life of a client, from one session to the next. -/
inductive LifeStep (D : Type)
  | connect (config : ClientConfig D) (schedule : List (List (NetworkStep D)))
  | disconnect (schedule : List (List (NetworkStep D)))
  | session (step : SessionStep D)

def Session.live {D : Type} [DoubleTrig D] [DoubleText D]
    (decodeJsonStringArray : Bytes → Option (List Bytes)) (s : Session D) :
    LifeStep D → Session D
  | .connect config schedule =>
    (({ s with shared := { s.shared with schedule := schedule } } : Session D).connect config).2
  | .disconnect schedule =>
    ({ s with shared := { s.shared with schedule := schedule } } : Session D).disconnect
  | .session e => s.step decodeJsonStringArray e

end StylyNetSync
