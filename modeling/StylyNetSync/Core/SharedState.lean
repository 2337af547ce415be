import StylyNetSync.Core.NetworkVariableManager
import StylyNetSync.Protocol.Deserialize
import StylyNetSync.Transport.ZmqTransport

/-!
# What the threads of a client share

The host's thread runs the client; the network thread and the discovery thread only enqueue what
arrives and drain what is to be sent. Everything they have in common is in `Shared`: the transport,
the inboxes, and the clock of the transport.

A call of the host is not atomic. Wherever it looks at the shared state, steps of the other threads
may have come in between. `schedule` is their order, given in advance: each look takes the next item
of it, a list of steps, and lets these happen first (`yield`). A statement about every schedule is
one about every interleaving.

Two fields only observe. `mappedEarly` is set when a device id mapping arrives before anything was
accepted into the control outbox. `lostNewest` is set when a drain round finds at the head of the
line a packet that is too old although it is the newest one of its slot, a hello or the last value
of some variable.
-/

namespace StylyNetSync

structure DiscoveredServer where
  address : Bytes
  ip : Bytes
  controlPort : ℤ
  transformPort : ℤ
  subPort : ℤ
  restApiPort : ℤ
  serverName : Bytes

/-- What the other threads report to the host's thread. -/
inductive Notification
  | connected
  | error (text : String)
  | log (text : String)
  | discovered (server : DiscoveredServer)

structure Inbox where
  control : List Bytes := []
  /-- Latest-wins, depth one: older room snapshots have no value. -/
  latestRoomPose : Option Bytes := none
  latestRoomObjects : Option Bytes := none
  controlDropped : ℕ := 0
  notifications : List Notification := []

def kControlInboxMax : ℕ := 4096

/-- What a control packet is the current word on. -/
inductive ControlSlot
  | hello
  | globalVariable (name : Bytes)
  | clientVariable (key : ClientKey)
  deriving DecidableEq

def ControlMessage.slot : ControlMessage → Option ControlSlot
  | clientHello _ _ => some .hello
  | globalVarSet message => some (.globalVariable message.variableName)
  | clientVarSet target message => some (.clientVariable ⟨target, message.variableName⟩)
  | _ => none

def packetSlot {D : Type} (packet : OutboundPacket ControlMessage D) : Option ControlSlot :=
  packet.payload.slot

/-- A step of another thread, or of time. -/
inductive NetworkStep (D : Type)
  /-- The transport's clock moves. -/
  | time (now : D)
  /-- Why a context for the sockets cannot be had, if it cannot. -/
  | context (error : Option String)
  /-- The network thread gives up. -/
  | fail
  | notify (notification : Notification)
  | payload (lane : TransportLane) (data : Bytes)
  | drainBegin
  | drainStep (result : SendResult) (reason : String)
  | clearSentTransform (payload : Bytes)
  | clearSentObjectTransform (objectId : UInt32) (payload : Bytes)

structure Shared (D : Type) where
  transport : ZmqTransport ControlMessage D := {}
  inbox : Inbox := {}
  clock : D
  contextError : Option String := none
  discovering : Bool := false
  schedule : List (List (NetworkStep D)) := []
  mappedEarly : Bool := false
  lostNewest : Bool := false

namespace Inbox

def notify (notification : Notification) (inbox : Inbox) : Inbox :=
  { inbox with notifications := inbox.notifications ++ [notification] }

/-- `handle_payload`: copy and queue only. -/
def receive (lane : TransportLane) (data : Bytes) (inbox : Inbox) : Inbox :=
  match lane with
  | .control =>
    if inbox.control.length ≥ kControlInboxMax then
      { inbox with
        control := inbox.control.tail ++ [data]
        controlDropped := inbox.controlDropped + 1 }
    else { inbox with control := inbox.control ++ [data] }
  | .roomPose => { inbox with latestRoomPose := some data }
  | .roomObjects => { inbox with latestRoomObjects := some data }

end Inbox

namespace Shared

variable {D : Type}

/-- Nothing was accepted into the control outbox since the transport was last stopped. -/
def nothingAccepted (w : Shared D) : Bool := w.transport.ledger.entries.isEmpty

def notify (notification : Notification) (w : Shared D) : Shared D :=
  { w with inbox := w.inbox.notify notification }

variable [Double D]

/-- What an iteration of the drain loop reports. -/
def reportDrain (outcome : ZmqTransport.DrainOutcome) (reason : String) (w : Shared D) : Shared D :=
  match outcome with
  | .expired => w.notify (.log "control packet expired (TTL 5.000000s exceeded)")
  | .broken =>
    w.notify
      (.error ("failed to complete a multipart send, abandoning the connection: " ++ reason))
  | _ => w

/-- A step of another thread. -/
def step (w : Shared D) : NetworkStep D → Shared D
  | .time now => { w with clock := now }
  | .context error => { w with contextError := error }
  | .fail => { w with transport := { w.transport with connectionError := true } }
  | .notify notification => w.notify notification
  | .payload lane data =>
    { w with
      inbox := w.inbox.receive lane data
      mappedEarly :=
        w.mappedEarly || (lane == .control &&
          peekMessageType data == MessageType.deviceIdMapping.code && w.nothingAccepted) }
  | .drainBegin => { w with transport := w.transport.drainBegin w.clock }
  | .drainStep result reason =>
    match w.transport.drainStep result with
    | (outcome, t) =>
      reportDrain outcome reason
        { w with
          transport := t
          lostNewest :=
            w.lostNewest ||
              (w.transport.headOverdue && w.transport.ledger.nextIsNewest packetSlot) }
  | .clearSentTransform payload =>
    { w with transport := w.transport.clearSentTransform payload }
  | .clearSentObjectTransform objectId payload =>
    { w with transport := w.transport.clearSentObjectTransform objectId payload }

/-- The steps that come in before the next look at the shared state. -/
def yield (w : Shared D) : Shared D :=
  match w.schedule with
  | [] => w
  | steps :: rest => steps.foldl step { w with schedule := rest }

/-! ### The host's thread -/

def pushLog (text : String) (w : Shared D) : Shared D := w.yield.notify (.log text)

def monotonicSeconds (w : Shared D) : D × Shared D :=
  let w := w.yield
  (w.clock, w)

/-- Queue a control-lane message. The flags are consulted before the lock is taken. -/
def tryEnqueueControl (message : ControlMessage) (w : Shared D) : Bool × Shared D :=
  let w := w.yield
  if !w.transport.usable then (false, w)
  else
    let w := w.yield
    match w.transport.pushControl message w.clock with
    | (ok, t) => (ok, { w with transport := t })

def setLatestTransform (payload : Bytes) (w : Shared D) : Shared D :=
  let w := w.yield
  if !w.transport.usable then w
  else
    let w := w.yield
    { w with transport := w.transport.setLatestTransform payload w.clock }

def setLatestObjectTransform (objectId : UInt32) (payload : Bytes) (w : Shared D) : Shared D :=
  if objectId = 0 then w
  else
    let w := w.yield
    if !w.transport.usable then w
    else
      let w := w.yield
      { w with transport := w.transport.setLatestObjectTransform objectId payload w.clock }

/-- `is_running() && !has_error()`. -/
def isConnected (w : Shared D) : Bool × Shared D :=
  let w := w.yield
  if !w.transport.running then (false, w)
  else
    let w := w.yield
    (!w.transport.connectionError, w)

/-- Start the network thread. A missing context is reported as an error. -/
def startTransport (roomId : Bytes) (w : Shared D) : Bool × Shared D :=
  let w := w.yield
  match w.contextError with
  | none =>
    match w.transport.start true roomId with
    | (ok, t) => (ok, { w with transport := t })
  | some reason =>
    -- a transport that runs already returns before it asks for a context
    let started := { w with transport := (w.transport.start false roomId).2 }
    (false,
      if w.transport.running then started
      else started.notify (.error ("failed to create ZeroMQ context: " ++ reason)))

def stopTransport (w : Shared D) : Shared D :=
  let w := w.yield
  { w with transport := w.transport.stop }

def startDiscovery (w : Shared D) : Bool × Shared D :=
  if w.discovering then (false, w) else (true, { w with discovering := true })

def stopDiscovery (w : Shared D) : Shared D := { w.yield with discovering := false }

/-- Empty the inboxes at the end of a session. -/
def clearInbox (w : Shared D) : Shared D :=
  let w := w.yield
  { w with
    inbox := { controlDropped := w.inbox.controlDropped }
    mappedEarly := false
    lostNewest := false }

def takeNotifications (w : Shared D) : List Notification × Shared D :=
  let w := w.yield
  (w.inbox.notifications, { w with inbox := { w.inbox with notifications := [] } })

/-- The inbound payloads: the control messages in order, and the latest room snapshots. -/
structure Mail where
  control : List Bytes
  roomPose : Option Bytes
  roomObjects : Option Bytes

def takeMail (w : Shared D) : Mail × Shared D :=
  let w := w.yield
  (⟨w.inbox.control, w.inbox.latestRoomPose, w.inbox.latestRoomObjects⟩,
    { w with
      inbox := { w.inbox with control := [], latestRoomPose := none, latestRoomObjects := none } })

/-- The managers talk to the transport and log into the inbox. -/
def callbacks : Callbacks (Shared D) := ⟨some tryEnqueueControl, some pushLog⟩

/-- A message is accepted by a usable transport, after the lock was taken. -/
theorem tryEnqueueControl_accepted {w w' : Shared D} {message : ControlMessage}
    (h : w.tryEnqueueControl message = (true, w')) :
    w.yield.transport.usable = true ∧
      ∃ t, w.yield.yield.transport.pushControl message w.yield.yield.clock = (true, t) ∧
        w' = { w.yield.yield with transport := t } := by
  rw [tryEnqueueControl] at h
  dsimp only at h
  split at h
  · simp at h
  · next husable =>
    rcases hpush : w.yield.yield.transport.pushControl message w.yield.yield.clock with ⟨ok, t⟩
    rw [hpush] at h
    obtain ⟨rfl, rfl⟩ := Prod.mk.inj h
    exact ⟨by simpa using husable, t, rfl, rfl⟩

end Shared

end StylyNetSync
