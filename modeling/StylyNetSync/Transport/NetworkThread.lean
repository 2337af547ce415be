import StylyNetSync.Core.Callbacks
import StylyNetSync.Transport.Endpoint
import StylyNetSync.Transport.NetworkLoop
import StylyNetSync.Transport.ReceiveLoop

/-!
# The life of the network thread

`start`, `stop` and the whole of `network_loop`. The thread sets up its sockets call by call,
reports that they are up, and goes round its loop until it is told to stop; a call that fails during
the set-up is reported and ends the thread, which stays joinable. `stop` raises the flag, clears
what is queued and joins, and the thread may take steps between any two of these.

`calls` only observes: it is what the thread has called back since `start`.
-/

namespace StylyNetSync

structure TransportConfig where
  serverAddress : Bytes
  controlPort : ℤ := 5555
  transformPort : ℤ := 5557
  subPort : ℤ := 5556
  roomId : Bytes

/-- What the network thread calls back. -/
inductive TransportCallback
  | connected
  | error (text : String)
  | log (text : String)
  | payload (lane : TransportLane) (data : Bytes)
  deriving DecidableEq

def TransportCallback.isLog : TransportCallback → Bool
  | .log _ => true
  | _ => false

/-! ### Setting up the sockets -/

inductive SocketRole
  | control
  | transform
  | sub
  deriving DecidableEq

inductive SocketOption
  | linger
  | sendHwm
  | receiveHwm
  deriving DecidableEq

def kControlSendHwm : ℕ := 1024
def kControlReceiveHwm : ℕ := 1024
def kTransformSendHwm : ℕ := 2
def kTransformReceiveHwm : ℕ := 2

/-- A call of libzmq during the set-up. -/
inductive SetupCall
  /-- The three sockets are created before any of them is looked at. -/
  | create
  | setOption (role : SocketRole) (option : SocketOption) (value : ℕ)
  | connect (role : SocketRole) (endpoint : Bytes)
  | subscribe (topic endpoint : Bytes)
  deriving DecidableEq

/-- What is reported when the call fails. -/
def SetupCall.failure (reason : String) : SetupCall → String
  | .create => "failed to create ZeroMQ sockets: " ++ reason
  | .setOption .control _ _ => "failed to configure the control socket: " ++ reason
  | .setOption .transform _ _ => "failed to configure the transform socket: " ++ reason
  | .setOption .sub _ _ => "failed to configure the subscriber socket: " ++ reason
  | .connect .control endpoint =>
    "failed to connect control DEALER to " ++ logText endpoint ++ ": " ++ reason
  | .connect .transform endpoint =>
    "failed to connect transform DEALER to " ++ logText endpoint ++ ": " ++ reason
  | .connect .sub endpoint => "failed to connect SUB to " ++ logText endpoint ++ ": " ++ reason
  | .subscribe _ _ => "failed to subscribe to room topic: " ++ reason

/-- What is logged when it succeeds. The subscriber is connected once it has subscribed. -/
def SetupCall.success : SetupCall → Option String
  | .connect .control endpoint => some ("control DEALER connected to " ++ logText endpoint)
  | .connect .transform endpoint => some ("transform DEALER connected to " ++ logText endpoint)
  | .subscribe _ endpoint => some ("SUB connected to " ++ logText endpoint)
  | _ => none

/-- The calls of the set-up, in their order. -/
def setupCalls (config : TransportConfig) : List SetupCall :=
  let controlEndpoint := buildEndpoint config.serverAddress config.controlPort
  let transformEndpoint := buildEndpoint config.serverAddress config.transformPort
  let subEndpoint := buildEndpoint config.serverAddress config.subPort
  [.create,
    .setOption .control .linger 0,
    .setOption .control .sendHwm kControlSendHwm,
    .setOption .control .receiveHwm kControlReceiveHwm,
    .connect .control controlEndpoint,
    .setOption .transform .linger 0,
    .setOption .transform .sendHwm kTransformSendHwm,
    .connect .transform transformEndpoint,
    .setOption .sub .linger 0,
    .setOption .sub .receiveHwm kTransformReceiveHwm,
    .connect .sub subEndpoint,
    .subscribe config.roomId subEndpoint]

/-! ### The thread -/

/-- Where the network thread stands, from `start` to the join. -/
inductive ThreadStage
  /-- There is no thread to join. -/
  | absent
  | setUp (calls : List SetupCall)
  | looping
  /-- In `receive_sub` and `receive_control`, with the payloads still to be passed on. -/
  | delivering (payloads : List (TransportLane × Bytes))
  /-- The function has returned, and the thread can be joined. -/
  | returned
  deriving DecidableEq

/-- How far the host's thread is in `stop`. -/
inductive StopStage
  | idle
  /-- The flag is raised. -/
  | clearing
  | joining
  deriving DecidableEq

/-- What the thread meets on its next step, whichever question it asks: the clock, the answer to a
call of the set-up, those to a send with the text of the error, and what is on the two sockets. -/
structure Encounter (D : Type) where
  now : D
  setUp : Option String
  send : Answers
  reason : String
  sub : List MultipartMessage
  control : List MultipartMessage

structure NetworkThread (D : Type) where
  loop : NetworkLoop D := { transport := {} }
  stage : ThreadStage := .absent
  stopping : StopStage := .idle
  /-- There is a context for the sockets. -/
  context : Bool := false
  socketsReady : Bool := false
  messagesReceived : ℕ := 0
  droppedTransformFrames : ℕ := 0
  calls : List TransportCallback := []

/-- A step of the network thread, or of the host's. -/
inductive ThreadStep (D : Type)
  | thread (encounter : Encounter D)
  | start (config : TransportConfig) (contextError : Option String)
  | enqueueControl (payload : Bytes) (now : D)
  | setLatestTransform (payload : Bytes) (now : D)
  | setLatestObjectTransform (objectId : UInt32) (payload : Bytes) (now : D)
  | clearOutgoing
  /-- The three parts of `stop`. -/
  | stopBegin
  | stopClear
  | stopJoin

namespace NetworkThread

variable {D : Type} [Double D]

/-- A message broke off after its first frame. -/
def abandoned (reason : String) : TransportCallback :=
  .error ("failed to complete a multipart send, abandoning the connection: " ++ reason)

/-- What an iteration of the drain loop calls back. -/
def drainCalls (reason : String) : ZmqTransport.DrainOutcome → List TransportCallback
  | .expired => [.log "control packet expired (TTL 5.000000s exceeded)"]
  | .broken => [abandoned reason]
  | _ => []

/-- What the send of a pose calls back. -/
def poseCalls (reason : String) (result : SendResult) : List TransportCallback :=
  if result = .broken then [abandoned reason] else []

/-- What is called back on a transition of the loop. -/
def loopCalls (encounter : Encounter D) (l : NetworkLoop D) : List TransportCallback :=
  match l.phase with
  | .draining =>
    drainCalls encounter.reason (l.transport.drainStep encounter.send.result).1
  | .transformCopied _ => poseCalls encounter.reason encounter.send.result
  | .objectCopied _ _ _ => poseCalls encounter.reason encounter.send.result
  | _ => []

/-- What one round of receiving passes on: the newest frames of the room first, then the control
messages in order. -/
def deliveries (roomId : Bytes) (encounter : Encounter D) : List (TransportLane × Bytes) :=
  (receiveSub roomId (onSocket encounter.sub)).1 ++
    (receiveControl roomId (onSocket encounter.control)).1.map (.control, ·)

/-- A transition of `network_loop`. -/
def advance (encounter : Encounter D) (t : NetworkThread D) : NetworkThread D :=
  match t.stage with
  | .absent => t
  | .returned => t
  | .setUp [] =>
    { t with socketsReady := true, calls := t.calls ++ [.connected], stage := .looping }
  | .setUp (call :: rest) =>
    match encounter.setUp with
    | some reason =>
      { t with
        loop :=
          { t.loop with transport := { t.loop.transport with connectionError := true } }
        calls := t.calls ++ [.error (call.failure reason)]
        stage := .returned }
    | none =>
      { t with
        calls := t.calls ++ call.success.toList.map .log
        stage := .setUp rest }
  | .looping =>
    match t.loop.phase with
    | .exited => { t with socketsReady := false, stage := .returned }
    | .receiving =>
      let roomId := t.loop.transport.roomId
      { t with
        loop := t.loop.advance encounter.now encounter.send
        messagesReceived :=
          t.messagesReceived + (receiveSub roomId (onSocket encounter.sub)).1.length +
            (receiveControl roomId (onSocket encounter.control)).2
        droppedTransformFrames :=
          t.droppedTransformFrames + (receiveSub roomId (onSocket encounter.sub)).2
        stage := .delivering (deliveries roomId encounter) }
    | _ =>
      { t with
        loop := t.loop.advance encounter.now encounter.send
        calls := t.calls ++ loopCalls encounter t.loop }
  | .delivering [] => { t with stage := .looping }
  | .delivering ((lane, data) :: rest) =>
    { t with calls := t.calls ++ [.payload lane data], stage := .delivering rest }

/-- `start`: refused while the thread runs or can be joined. -/
def start (config : TransportConfig) (contextError : Option String) (t : NetworkThread D) :
    Bool × NetworkThread D :=
  if t.loop.transport.running ∨ t.stage ≠ .absent then (false, t)
  else
    let transport := (t.loop.transport.start contextError.isNone config.roomId).2
    match contextError with
    | some reason =>
      (false,
        { t with
          loop := { transport := transport }
          context := false
          socketsReady := false
          calls := [.error ("failed to create ZeroMQ context: " ++ reason)] })
    | none =>
      (true,
        { t with
          loop := { transport := transport }
          context := true
          socketsReady := false
          stage := .setUp (setupCalls config)
          calls := [] })

/-- The first part of `stop`. Without a thread it is all there is to do. -/
def stopBegin (t : NetworkThread D) : NetworkThread D :=
  if t.stage = .absent then
    { t with
      context := false
      loop := { t.loop with transport := { t.loop.transport with running := false } } }
  else
    { t with
      loop := { t.loop with transport := { t.loop.transport with shouldStop := true } }
      stopping := .clearing }

/-- The join returns once the thread has. -/
def stopJoin (t : NetworkThread D) : NetworkThread D :=
  if t.stage = .returned then
    { t with
      loop :=
        { t.loop with
          transport := { t.loop.transport with running := false, draining := none, ledger := {} } }
      stage := .absent
      stopping := .idle
      context := false
      socketsReady := false }
  else t

/-- A call of the host's thread to the transport, which `stop` keeps from making others. -/
def host (e : LoopStep D) (t : NetworkThread D) : NetworkThread D :=
  if t.stopping = .idle then { t with loop := t.loop.step e } else t

def step (t : NetworkThread D) : ThreadStep D → NetworkThread D
  | .thread encounter => t.advance encounter
  | .start config contextError =>
    if t.stopping = .idle then (t.start config contextError).2 else t
  | .enqueueControl payload now => t.host (.enqueueControl payload now)
  | .setLatestTransform payload now => t.host (.setLatestTransform payload now)
  | .setLatestObjectTransform objectId payload now =>
    t.host (.setLatestObjectTransform objectId payload now)
  | .clearOutgoing => t.host .clearOutgoing
  | .stopBegin => if t.stopping = .idle then t.stopBegin else t
  | .stopClear =>
    if t.stopping = .clearing then
      { t with
        loop := { t.loop with transport := t.loop.transport.clearOutgoing }
        stopping := .joining }
    else t
  | .stopJoin => if t.stopping = .joining then t.stopJoin else t

end NetworkThread

end StylyNetSync
